import RecordSearch.Regex.Search

/-!
# Running programs

The search keeps an array of marks and spends fuel.  Here both are taken away: the fuel always
suffices, and the marks are a list of threads.  A program that only goes forward is then seen to
find what it would find without any marks, because a thread that is met again has failed before.
-/

namespace RecordSearch.Regex

def Instruction.GoesOn : Instruction → Prop
  | accept => False
  | _ => True

/-- The threads of a stack are run from the top on, where those in `seen` are passed over. -/
inductive Runs (program : Array Instruction) (text : Array Char) :
    List Thread → List Thread → Option Nat → Prop
  | done (seen : List Thread) : Runs program text [] seen none
  | skip {thread : Thread} {stack seen : List Thread} {result : Option Nat}
    (useless : thread ∈ seen ∨ program[thread.address]? = none)
    (behind : Runs program text stack seen result) :
    Runs program text (thread :: stack) seen result
  | accept {thread : Thread} {stack seen : List Thread} (fresh : thread ∉ seen)
    (found : program[thread.address]? = some .accept) :
    Runs program text (thread :: stack) seen (some thread.place)
  | step {thread : Thread} {stack seen : List Thread} {instruction : Instruction}
    {result : Option Nat} (fresh : thread ∉ seen)
    (found : program[thread.address]? = some instruction) (goesOn : instruction.GoesOn)
    (behind : Runs program text (successors text thread instruction ++ stack) (thread :: seen)
      result) :
    Runs program text (thread :: stack) seen result

section Marks

variable {program : Array Instruction} {text : Array Char} {visited : Array Bool}
  {seen stack : List Thread} {thread other : Thread} {instruction : Instruction}

/-- The array marks exactly the threads that have been seen. -/
structure Marks (program : Array Instruction) (text : Array Char) (visited : Array Bool)
    (seen : List Thread) : Prop where
  size_eq : visited.size = program.size * (text.size + 1)
  marked_iff : ∀ thread : Thread, thread.address < program.size → thread.place ≤ text.size →
    (visited[thread.number (text.size + 1)]? = some true ↔ thread ∈ seen)

theorem Thread.number_lt (inside : thread.address < program.size)
    (fits : thread.place ≤ text.size) :
    thread.number (text.size + 1) < program.size * (text.size + 1) := by
  calc
    thread.number (text.size + 1) < thread.address * (text.size + 1) + (text.size + 1) :=
      Nat.add_lt_add_left (Nat.lt_succ_of_le fits) _
    _ = (thread.address + 1) * (text.size + 1) := (Nat.succ_mul _ _).symm
    _ ≤ program.size * (text.size + 1) := Nat.mul_le_mul_right _ inside

/-- Threads have different numbers as long as their places are places of the text. -/
theorem Thread.number_inj {places : Nat} (fits : thread.place < places)
    (fits' : other.place < places) (h : thread.number places = other.number places) :
    thread = other := by
  have positive : 0 < places := Nat.zero_lt_of_lt fits
  have address_eq : ∀ t : Thread, t.place < places → t.number places / places = t.address := by
    intro t t_fits
    rw [number, Nat.mul_comm, Nat.mul_add_div positive, Nat.div_eq_of_lt t_fits, Nat.add_zero]
  have place_eq : ∀ t : Thread, t.place < places → t.number places % places = t.place := by
    intro t t_fits
    rw [number, Nat.mul_comm, Nat.mul_add_mod, Nat.mod_eq_of_lt t_fits]
  have addresses : thread.address = other.address := by
    rw [← address_eq thread fits, h, address_eq other fits']
  have places_eq : thread.place = other.place := by
    rw [← place_eq thread fits, h, place_eq other fits']
  cases thread
  cases other
  simp_all

theorem marks_nil (program : Array Instruction) (text : Array Char) :
    Marks program text (Array.replicate (program.size * (text.size + 1)) false) [] where
  size_eq := Array.size_replicate
  marked_iff := by
    intro thread inside fits
    rw [Array.getElem?_replicate, if_pos (Thread.number_lt inside fits)]
    simp

theorem Marks.getElem?_eq (h : Marks program text visited seen)
    (inside : thread.address < program.size) (fits : thread.place ≤ text.size) :
    visited[thread.number (text.size + 1)]? = some (decide (thread ∈ seen)) := by
  have number_lt : thread.number (text.size + 1) < visited.size :=
    h.size_eq ▸ Thread.number_lt inside fits
  have marked_iff := h.marked_iff thread inside fits
  rw [Array.getElem?_eq_getElem number_lt, Option.some_inj] at marked_iff ⊢
  rw [Bool.eq_iff_iff, marked_iff, decide_eq_true_eq]

/-- To set its mark is to have seen a thread. -/
theorem Marks.cons (h : Marks program text visited seen) (inside : thread.address < program.size)
    (fits : thread.place ≤ text.size) :
    Marks program text (visited.setIfInBounds (thread.number (text.size + 1)) true)
      (thread :: seen) where
  size_eq := by rw [Array.size_setIfInBounds, h.size_eq]
  marked_iff := by
    intro other inside' fits'
    rw [Array.getElem?_setIfInBounds, List.mem_cons]
    split
    · rename_i same
      have := Thread.number_inj (Nat.lt_succ_of_le fits) (Nat.lt_succ_of_le fits') same
      rw [if_pos (h.size_eq ▸ Thread.number_lt inside fits)]
      simp [this]
    · rename_i different
      rw [h.marked_iff other inside' fits']
      constructor
      · exact .inr
      · rintro (rfl | member)
        · exact absurd rfl different
        · exact member

def rounds (visited : Array Bool) (stack : List Thread) : Nat :=
  2 * visited.count false + stack.length

theorem count_setIfInBounds {number : Nat} (h : visited[number]? = some false) :
    (visited.setIfInBounds number true).count false + 1 = visited.count false := by
  obtain ⟨inside, unmarked⟩ := Array.getElem?_eq_some_iff.1 h
  have positive : 0 < visited.count false :=
    Array.count_pos_iff.2 (unmarked ▸ Array.getElem_mem inside)
  rw [Array.setIfInBounds, dif_pos inside, Array.count_set inside, unmarked]
  rw [if_pos (show (false == false) = true from rfl),
    if_neg (show ¬ (true == false) = true from Bool.false_ne_true), Nat.add_zero]
  exact Nat.succ_pred_eq_of_pos positive

/-- All that one step can lead to. -/
theorem mem_successors : other ∈ successors text thread instruction ↔ match instruction with
    | .char members =>
      text[thread.place]?.any members = true ∧ other = ⟨thread.address + 1, thread.place + 1⟩
    | .look condition =>
      condition.holds (before? text thread.place) text[thread.place]? = true ∧
        other = ⟨thread.address + 1, thread.place⟩
    | .branch preferred second =>
      other = ⟨preferred, thread.place⟩ ∨ other = ⟨second, thread.place⟩
    | .jump target => other = ⟨target, thread.place⟩
    | .accept => False := by
  cases instruction with
  | char members =>
    rw [successors]
    split <;> simp_all
  | look condition =>
    rw [successors]
    split <;> simp_all
  | branch => simp [successors]
  | jump => simp [successors]
  | accept => simp [successors]

/-- The successors of a thread stay inside the text. -/
theorem place_le_of_mem_successors (fits : thread.place ≤ text.size)
    (h : other ∈ successors text thread instruction) : other.place ≤ text.size := by
  rw [mem_successors] at h
  cases instruction with
  | char members =>
    obtain ⟨consumes, rfl⟩ := h
    obtain ⟨c, found, _⟩ := (Option.any_eq_true _ _).1 consumes
    exact (Array.getElem?_eq_some_iff.1 found).1
  | look condition =>
    obtain ⟨_, rfl⟩ := h
    exact fits
  | branch =>
    rcases h with rfl | rfl
    · exact fits
    · exact fits
  | jump =>
    subst h
    exact fits
  | accept => exact h.elim

theorem length_successors_le (text : Array Char) (thread : Thread) (instruction : Instruction) :
    (successors text thread instruction).length ≤ 2 := by
  cases instruction with
  | char =>
    rw [successors]
    split <;> simp
  | look =>
    rw [successors]
    split <;> simp
  | branch => simp [successors]
  | jump => simp [successors]
  | accept => simp [successors]

theorem rounds_tail_lt (visited : Array Bool) (thread : Thread) (stack : List Thread) :
    rounds visited stack < rounds visited (thread :: stack) := by
  rw [rounds, rounds, List.length_cons]
  exact Nat.lt_succ_self _

/-- A thread that is run leaves two others at most, but is marked. -/
theorem rounds_successors_lt {number : Nat} (h : visited[number]? = some false) :
    rounds (visited.setIfInBounds number true) (successors text thread instruction ++ stack) <
      rounds visited (thread :: stack) := by
  have fewer := count_setIfInBounds h
  have length_le := length_successors_le text thread instruction
  simp only [rounds, List.length_cons, List.length_append]
  omega

/-- The fuel suffices, and the array is as good as the list. -/
theorem runs_run {fuel : Nat} (marks : Marks program text visited seen)
    (fits : ∀ thread ∈ stack, thread.place ≤ text.size) (enough : rounds visited stack < fuel) :
    Runs program text stack seen (run program text fuel stack visited) := by
  induction fuel generalizing stack visited seen with
  | zero => exact absurd enough (Nat.not_lt_zero _)
  | succ fuel ih =>
    cases stack with
    | nil => exact .done seen
    | cons thread stack =>
      obtain ⟨fits, fitBehind⟩ := List.forall_mem_cons.1 fits
      have enough := Nat.le_of_lt_succ enough
      have behind := ih marks fitBehind (Nat.lt_of_lt_of_le (rounds_tail_lt _ _ _) enough)
      rw [run]
      cases found : program[thread.address]? with
      | none =>
        rw [ite_self]
        exact .skip (.inr found) behind
      | some instruction =>
        have inside : thread.address < program.size := (Array.getElem?_eq_some_iff.1 found).1
        have mark := marks.getElem?_eq inside fits
        rw [Array.getD_eq_getD_getElem?, mark, Option.getD_some]
        by_cases member : thread ∈ seen
        · rw [if_pos (decide_eq_true member)]
          exact .skip (.inl member) behind
        · rw [if_neg (by rwa [decide_eq_true_eq])]
          rw [decide_eq_false member] at mark
          have fitNext : ∀ other ∈ successors text thread instruction ++ stack,
              other.place ≤ text.size := by
            intro other otherMember
            rcases List.mem_append.1 otherMember with successor | below
            · exact place_le_of_mem_successors fits successor
            · exact fitBehind other below
          have next := ih (marks.cons inside fits) fitNext
            (Nat.lt_of_lt_of_le (rounds_successors_lt mark) enough)
          cases instruction with
          | accept => exact .accept member found
          | char => exact .step member found trivial next
          | look => exact .step member found trivial next
          | branch => exact .step member found trivial next
          | jump => exact .step member found trivial next

end Marks

/-- The search from a place runs the thread that starts there. -/
theorem runs_matchEnd? (regex : Regex) {text : Array Char} {start : Nat} (h : start ≤ text.size) :
    Runs regex.program text [⟨0, start⟩] [] (regex.matchEnd? text start) := by
  apply runs_run (marks_nil regex.program text)
  · intro thread member
    cases List.mem_singleton.1 member
    exact h
  · simp only [rounds, Array.count_replicate_self, List.length_singleton]
    omega

/-! ## Programs that only go forward -/

section Forward

variable {program : Array Instruction} {text : Array Char} {seen stack : List Thread}
  {thread : Thread} {instruction : Instruction}

/-- No instruction leads to itself or to an earlier one. -/
def Forward (program : Array Instruction) (text : Array Char) : Prop :=
  ∀ (thread : Thread) (instruction : Instruction), program[thread.address]? = some instruction →
    ∀ next ∈ successors text thread instruction, thread.address < next.address

/-- Where the preferred run of a thread ends, in a program that only goes forward. -/
def preferred (program : Array Instruction) (text : Array Char) (thread : Thread) : Option Nat :=
  match program[thread.address]? with
  | none => none
  | some .accept => some thread.place
  | some instruction =>
    (successors text thread instruction).findSome? fun next ↦
      if thread.address < next.address ∧ thread.address < program.size then
        preferred program text next
      else none
termination_by program.size - thread.address
decreasing_by omega

theorem preferred_missing (h : program[thread.address]? = none) :
    preferred program text thread = none := by
  rw [preferred, h]

theorem preferred_accept (h : program[thread.address]? = some .accept) :
    preferred program text thread = some thread.place := by
  rw [preferred, h]

theorem findSome?_congr {α β : Type} {f g : α → Option β} {items : List α}
    (h : ∀ item ∈ items, f item = g item) : items.findSome? f = items.findSome? g := by
  induction items with
  | nil => rfl
  | cons item items ih =>
    obtain ⟨first, rest⟩ := List.forall_mem_cons.1 h
    rw [List.findSome?_cons, List.findSome?_cons, first, ih rest]

/-- A thread that goes on prefers the first of its successors that comes to an end. -/
theorem preferred_step (forward : Forward program text)
    (found : program[thread.address]? = some instruction) (goesOn : instruction.GoesOn) :
    preferred program text thread =
      (successors text thread instruction).findSome? (preferred program text) := by
  have inside : thread.address < program.size := (Array.getElem?_eq_some_iff.1 found).1
  have unfolded : preferred program text thread =
      (successors text thread instruction).findSome? fun next ↦
        if thread.address < next.address ∧ thread.address < program.size then
          preferred program text next
        else none := by
    rw [preferred, found]
    cases instruction with
    | accept => exact goesOn.elim
    | char => rfl
    | look => rfl
    | branch => rfl
    | jump => rfl
  rw [unfolded]
  apply findSome?_congr
  intro next member
  rw [if_pos ⟨forward thread instruction found next member, inside⟩]

/-- What becomes of a thread is settled by the threads at the top of the stack. -/
def Pending (program : Array Instruction) (text : Array Char) (stack : List Thread)
    (thread : Thread) : Prop :=
  ∃ front back, stack = front ++ back ∧
    preferred program text thread = front.findSome? (preferred program text) ∧
    ∀ next ∈ front, thread.address < next.address

theorem Pending.unfold {top : Thread} {added : List Thread}
    (h : Pending program text (top :: stack) thread)
    (result_eq : preferred program text top = added.findSome? (preferred program text))
    (later : ∀ next ∈ added, top.address < next.address) :
    Pending program text (added ++ stack) thread := by
  obtain ⟨front, back, stack_eq, front_eq, ascending⟩ := h
  cases front with
  | nil => exact ⟨[], _, rfl, front_eq, List.forall_mem_nil _⟩
  | cons first front =>
    cases stack_eq
    refine ⟨added ++ front, back, (List.append_assoc _ _ _).symm, ?_, ?_⟩
    · calc
        preferred program text thread = (top :: front).findSome? (preferred program text) :=
          front_eq
        _ = (added.findSome? (preferred program text)).or
            (front.findSome? (preferred program text)) := by
          rw [List.findSome?_cons, result_eq]
          cases added.findSome? (preferred program text) <;> rfl
        _ = (added ++ front).findSome? (preferred program text) := List.findSome?_append.symm
    · intro next member
      rcases List.mem_append.1 member with new | old
      · exact Nat.lt_trans (ascending _ List.mem_cons_self) (later next new)
      · exact ascending next (List.mem_cons_of_mem _ old)

/-- A thread that is met again while it is pending has failed. -/
theorem Pending.eq_none (h : Pending program text (thread :: stack) thread) :
    preferred program text thread = none := by
  obtain ⟨front, back, stack_eq, front_eq, ascending⟩ := h
  cases front with
  | nil => exact front_eq
  | cons first front =>
    cases stack_eq
    exact absurd (ascending thread List.mem_cons_self) (Nat.lt_irrefl _)

/-- Passing over threads that were seen makes no difference. -/
theorem Runs.eq_findSome? {result : Option Nat} (forward : Forward program text)
    (h : Runs program text stack seen result)
    (pending : ∀ thread ∈ seen, Pending program text stack thread) :
    result = stack.findSome? (preferred program text) := by
  -- Every thread of `seen` is pending at each moment of the run, until all of its successors fail.
  induction h with
  | done => rfl
  | @skip thread stack seen result useless _ ih =>
    have failed : preferred program text thread = none := by
      rcases useless with member | missing
      · exact (pending thread member).eq_none
      · exact preferred_missing missing
    rw [List.findSome?_cons, failed]
    apply ih
    intro other member
    have unfolded : Pending program text ([] ++ stack) other :=
      (pending other member).unfold failed (List.forall_mem_nil _)
    exact unfolded
  | accept _ found => rw [List.findSome?_cons, preferred_accept found]
  | @step thread stack seen instruction result _ found goesOn _ ih =>
    have result_eq := preferred_step forward found goesOn
    have later := forward thread instruction found
    have settled : ∀ other ∈ thread :: seen,
        Pending program text (successors text thread instruction ++ stack) other := by
      intro other member
      rcases List.mem_cons.1 member with rfl | earlier
      · exact ⟨_, stack, rfl, result_eq, later⟩
      · exact (pending other earlier).unfold result_eq later
    calc
      result = (successors text thread instruction ++ stack).findSome? (preferred program text) :=
        ih settled
      _ = (preferred program text thread).or (stack.findSome? (preferred program text)) := by
        rw [List.findSome?_append, ← result_eq]
      _ = (thread :: stack).findSome? (preferred program text) := by
        rw [List.findSome?_cons]
        cases preferred program text thread <;> rfl

/-- A search in a program that only goes forward finds the preferred run. -/
theorem matchEnd?_eq_preferred {regex : Regex} (forward : Forward regex.program text) {start : Nat}
    (h : start ≤ text.size) :
    regex.matchEnd? text start = preferred regex.program text ⟨0, start⟩ := by
  calc
    regex.matchEnd? text start = [⟨0, start⟩].findSome? (preferred regex.program text) :=
      (runs_matchEnd? regex h).eq_findSome? forward (List.forall_mem_nil _)
    _ = preferred regex.program text ⟨0, start⟩ := List.findSome?_singleton

end Forward

end RecordSearch.Regex
