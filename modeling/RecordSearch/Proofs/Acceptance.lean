import RecordSearch.Proofs.LoopFree
import RecordSearch.Proofs.Matching

/-!
# Programs accept what expressions match

A program can go round in a loop, so the search passes over threads that it has run before.  A
thread that is passed over cannot accept where the search would not: the search fails only when the
threads that it has run lead to no others.  It therefore succeeds if and only if some sequence of
steps accepts, and the steps through the code of an expression go along its matches.  The main
statement is that the search succeeds at a place if and only if the expression matches there.
-/

namespace RecordSearch.Regex

variable {program : Array Instruction} {text : Array Char} {thread other : Thread}
  {steps stop : Nat}

/-- So many steps lead from a thread to the end of a match. -/
inductive Accepts (program : Array Instruction) (text : Array Char) : Nat → Thread → Nat → Prop
  | here {thread : Thread} (found : program[thread.address]? = some .accept) :
    Accepts program text 0 thread thread.place
  | step {steps : Nat} {thread next : Thread} {stop : Nat} {instruction : Instruction}
    (found : program[thread.address]? = some instruction)
    (member : next ∈ successors text thread instruction)
    (behind : Accepts program text steps next stop) :
    Accepts program text (steps + 1) thread stop

theorem Accepts.of_goesOn {instruction : Instruction} (h : Accepts program text steps thread stop)
    (found : program[thread.address]? = some instruction) (goesOn : instruction.GoesOn) :
    ∃ fewer, steps = fewer + 1 ∧
      ∃ next ∈ successors text thread instruction, Accepts program text fewer next stop := by
  cases h with
  | here accepting =>
    rw [found] at accepting
    cases accepting
    exact goesOn.elim
  | step found' member behind =>
    rw [found] at found'
    cases found'
    exact ⟨_, rfl, _, member, behind⟩

/-- The threads lead to no others, and none of them accepts. -/
def Closed (program : Array Instruction) (text : Array Char) (members : Thread → Prop) : Prop :=
  ∀ thread instruction, members thread → program[thread.address]? = some instruction →
    instruction.GoesOn ∧ ∀ next ∈ successors text thread instruction, members next

/-- No member of a closed set of threads comes to an end. -/
theorem Closed.not_accepts {members : Thread → Prop} (closed : Closed program text members)
    (member : members thread) : ¬ Accepts program text steps thread stop := by
  intro h
  induction h with
  | here found => exact (closed _ _ member found).1
  | step found successor _ ih => exact ih ((closed _ _ member found).2 _ successor)

variable {stack seen : List Thread}

/-- What a search finds is accepted by one of its threads. -/
theorem Runs.exists_accepts (h : Runs program text stack seen (some stop)) :
    ∃ thread ∈ stack, ∃ steps, Accepts program text steps thread stop := by
  generalize result_eq : some stop = result at h
  induction h with
  | done => cases result_eq
  | skip _ _ ih =>
    obtain ⟨thread, member, accepts⟩ := ih result_eq
    exact ⟨thread, List.mem_cons_of_mem _ member, accepts⟩
  | accept _ found =>
    cases result_eq
    exact ⟨_, List.mem_cons_self, 0, .here found⟩
  | step _ found _ _ ih =>
    obtain ⟨thread, member, steps, accepts⟩ := ih result_eq
    rcases List.mem_append.1 member with successor | below
    · exact ⟨_, List.mem_cons_self, steps + 1, .step found successor accepts⟩
    · exact ⟨thread, List.mem_cons_of_mem _ below, steps, accepts⟩

/-- The thread has been seen, or is going to be, or can do nothing. -/
def IsMet (program : Array Instruction) (stack seen : List Thread) (thread : Thread) : Prop :=
  thread ∈ seen ∨ thread ∈ stack ∨ program[thread.address]? = none

/-- The threads that have been seen do not accept, and lead only to threads that are met. -/
def Explored (program : Array Instruction) (text : Array Char) (stack seen : List Thread) : Prop :=
  ∀ thread ∈ seen, ∀ instruction, program[thread.address]? = some instruction →
    instruction.GoesOn ∧ ∀ next ∈ successors text thread instruction, IsMet program stack seen next

theorem IsMet.of_useless (h : IsMet program (thread :: stack) seen other)
    (useless : thread ∈ seen ∨ program[thread.address]? = none) :
    IsMet program stack seen other := by
  rcases h with old | new | missing
  · exact .inl old
  · rcases List.mem_cons.1 new with rfl | below
    · exact useless.imp_right .inr
    · exact .inr (.inl below)
  · exact .inr (.inr missing)

theorem IsMet.of_step (h : IsMet program (thread :: stack) seen other) (added : List Thread) :
    IsMet program (added ++ stack) (thread :: seen) other := by
  rcases h with old | new | missing
  · exact .inl (List.mem_cons_of_mem _ old)
  · rcases List.mem_cons.1 new with rfl | below
    · exact .inl List.mem_cons_self
    · exact .inr (.inl (List.mem_append_right _ below))
  · exact .inr (.inr missing)

/-- A search that fails has run all threads that it could come to. -/
theorem Runs.exists_closed (h : Runs program text stack seen none)
    (explored : Explored program text stack seen) :
    ∃ members, Closed program text members ∧
      ∀ thread, IsMet program stack seen thread → members thread := by
  -- Whatever a seen thread leads to is met, and at the end nothing is left on the stack.
  generalize result_eq : none = result at h
  induction h with
  | done seen =>
    refine ⟨IsMet program [] seen, ?_, fun _ met ↦ met⟩
    rintro thread instruction (member | member | missing) found
    · exact explored thread member instruction found
    · cases member
    · rw [found] at missing
      cases missing
  | skip useless _ ih =>
    obtain ⟨members, closed, all⟩ := ih (fun other member instruction found ↦ by
      obtain ⟨goesOn, leads⟩ := explored other member instruction found
      exact ⟨goesOn, fun next successor ↦ (leads next successor).of_useless useless⟩) result_eq
    exact ⟨members, closed, fun other met ↦ all other (met.of_useless useless)⟩
  | accept => cases result_eq
  | @step thread stack seen instruction result _ found goesOn _ ih =>
    obtain ⟨members, closed, all⟩ := ih (fun other member instruction' found' ↦ by
      rcases List.mem_cons.1 member with rfl | earlier
      · rw [found] at found'
        cases found'
        exact ⟨goesOn, fun next successor ↦ .inr (.inl (List.mem_append_left _ successor))⟩
      · obtain ⟨goesOn', leads⟩ := explored other earlier instruction' found'
        exact ⟨goesOn', fun next successor ↦ (leads next successor).of_step _⟩) result_eq
    exact ⟨members, closed, fun other met ↦ all other (met.of_step _)⟩

/-- The search succeeds at a place if and only if a sequence of steps from there accepts. -/
theorem isSome_matchEnd?_iff {regex : Regex} {start : Nat} (fits : start ≤ text.size) :
    (regex.matchEnd? text start).isSome ↔
      ∃ stop steps, Accepts regex.program text steps ⟨0, start⟩ stop := by
  have runs := runs_matchEnd? regex fits
  cases found : regex.matchEnd? text start with
  | none =>
    rw [found] at runs
    obtain ⟨members, closed, all⟩ := runs.exists_closed (List.forall_mem_nil _)
    have member := all ⟨0, start⟩ (.inr (.inl List.mem_cons_self))
    refine iff_of_false Bool.false_ne_true ?_
    rintro ⟨stop, steps, accepts⟩
    exact closed.not_accepts member accepts
  | some stop =>
    rw [found] at runs
    obtain ⟨thread, member, steps, accepts⟩ := runs.exists_accepts
    rw [List.mem_singleton.1 member] at accepts
    exact iff_of_true rfl ⟨stop, steps, accepts⟩

/-! ## The code of an expression -/

/-- The code of an expression stands in the program from one address to another. -/
inductive Coded (program : Array Instruction) : Regex → Nat → Nat → Prop
  | empty (base : Nat) : Coded program .empty base base
  | char {members : Unicode.CharClass} {base : Nat}
    (found : program[base]? = some (.char members)) :
    Coded program (.char members) base (base + 1)
  | look {condition : Look} {base : Nat} (found : program[base]? = some (.look condition)) :
    Coded program (.look condition) base (base + 1)
  | cat {first second : Regex} {base middle behind : Nat} (before : Coded program first base middle)
    (after : Coded program second middle behind) : Coded program (.cat first second) base behind
  | alt {preferred other : Regex} {base middle start behind : Nat}
    (found : program[base]? = some (.branch (base + 1) start))
    (here : Coded program preferred (base + 1) middle)
    (leave : program[middle]? = some (.jump behind)) (there : Coded program other start behind) :
    Coded program (.alt preferred other) base behind
  | optional {greedy : Bool} {body : Regex} {base behind : Nat}
    (found : program[base]? = some (.choose greedy (base + 1) behind))
    (inside : Coded program body (base + 1) behind) :
    Coded program (.optional greedy body) base behind
  | star {greedy : Bool} {body : Regex} {base middle behind : Nat}
    (found : program[base]? = some (.choose greedy (base + 1) behind))
    (inside : Coded program body (base + 1) middle) (back : program[middle]? = some (.jump base)) :
    Coded program (.star greedy body) base behind
  | plus {greedy : Bool} {body : Regex} {base middle behind : Nat}
    (inside : Coded program body base middle)
    (found : program[middle]? = some (.choose greedy base behind)) :
    Coded program (.plus greedy body) base behind

variable {regex : Regex} {base behind start : Nat}

/-- The instructions of an expression, placed in a program, code it up to the address behind them.
-/
theorem coded_instructions (placed : Placed program base (instructions base regex)) :
    Coded program regex base (base + (instructions base regex).length) := by
  induction regex generalizing base with
  | empty => exact .empty base
  | char => exact .char placed.head
  | look => exact .look placed.head
  | cat first second ihFirst ihSecond =>
    have after := ihSecond placed.right
    rw [Nat.add_assoc, ← List.length_append] at after
    exact .cat (ihFirst placed.left) after
  | alt preferred other ihPreferred ihOther =>
    have code : Placed program base (.branch (base + 1) _ :: (_ ++ .jump _ :: _)) := placed
    have there := code.tail.right.tail
    rw [show base + 1 + (instructions (base + 1) preferred).length + 1 =
      base + (instructions (base + 1) preferred).length + 2 by omega] at there
    have behind_eq : base + (instructions base (.alt preferred other)).length =
        base + (instructions (base + 1) preferred).length + 2 +
          (instructions (base + (instructions (base + 1) preferred).length + 2) other).length := by
      simp only [instructions, List.length_append, List.length_cons]
      omega
    rw [behind_eq]
    exact .alt code.head (ihPreferred code.tail.left) code.tail.right.head (ihOther there)
  | optional greedy body ih =>
    have inside := ih placed.tail
    rw [Nat.add_right_comm] at inside
    exact .optional placed.head inside
  | star greedy body ih =>
    have code : Placed program base (.choose _ _ _ :: (_ ++ [.jump base])) := placed
    have behind_eq : base + (instructions base (.star greedy body)).length =
        base + (instructions (base + 1) body).length + 2 := by
      simp only [instructions, List.length_append, List.length_cons, List.length_nil]
      omega
    rw [behind_eq]
    exact .star code.head (ih code.tail.left) code.tail.right.head
  | plus greedy body ih =>
    have behind_eq : base + (instructions base (.plus greedy body)).length =
        base + (instructions base body).length + 1 := by
      simp only [instructions, List.length_append, List.length_cons, List.length_nil]
      omega
    rw [behind_eq]
    exact .plus (ih placed.left) placed.right.head

theorem mem_successors_choose {greedy : Bool} {first second : Nat} :
    other ∈ successors text thread (.choose greedy first second) ↔
      other = ⟨first, thread.place⟩ ∨ other = ⟨second, thread.place⟩ := by
  cases greedy with
  | true => exact mem_successors
  | false => exact mem_successors.trans or_comm

theorem goesOn_choose (greedy : Bool) (first second : Nat) :
    (Instruction.choose greedy first second).GoesOn := by
  cases greedy <;> trivial

variable {middle : Nat}

theorem Accepts.of_choose {greedy : Bool} {first second place : Nat}
    (found : program[base]? = some (.choose greedy first second))
    (behind : Accepts program text steps ⟨first, place⟩ stop ∨
      Accepts program text steps ⟨second, place⟩ stop) :
    Accepts program text (steps + 1) ⟨base, place⟩ stop := by
  rcases behind with here | there
  · exact .step found (mem_successors_choose.2 (.inl rfl)) here
  · exact .step found (mem_successors_choose.2 (.inr rfl)) there

theorem Accepts.of_jump {target place : Nat} (found : program[base]? = some (.jump target))
    (behind : Accepts program text steps ⟨target, place⟩ stop) :
    Accepts program text (steps + 1) ⟨base, place⟩ stop :=
  .step found (mem_successors.2 rfl) behind

/-- Steps go along every match of the code that they go through. -/
theorem Matches.accepts (h : Matches text regex start middle)
    (coded : Coded program regex base behind)
    (accepts : Accepts program text steps ⟨behind, middle⟩ stop) :
    ∃ steps, Accepts program text steps ⟨base, start⟩ stop := by
  induction h generalizing base behind steps with
  | empty =>
    cases coded
    exact ⟨steps, accepts⟩
  | char found member =>
    cases coded with
    | char code =>
      refine ⟨steps + 1, .step code (mem_successors.2 ⟨?_, rfl⟩) accepts⟩
      rw [found]
      exact member
  | look holds =>
    cases coded with
    | look code => exact ⟨steps + 1, .step code (mem_successors.2 ⟨holds, rfl⟩) accepts⟩
  | cat _ _ ihBefore ihBehind =>
    cases coded with
    | cat before after =>
      obtain ⟨more, accepts⟩ := ihBehind after accepts
      exact ihBefore before accepts
  | preferred _ ih =>
    cases coded with
    | alt code here leave there =>
      obtain ⟨more, accepts⟩ := ih here (.of_jump leave accepts)
      exact ⟨more + 1, .step code (mem_successors.2 (.inl rfl)) accepts⟩
  | other _ ih =>
    cases coded with
    | alt code here leave there =>
      obtain ⟨more, accepts⟩ := ih there accepts
      exact ⟨more + 1, .step code (mem_successors.2 (.inr rfl)) accepts⟩
  | skipped =>
    cases coded with
    | optional code => exact ⟨steps + 1, .of_choose code (.inr accepts)⟩
  | taken _ _ ih =>
    cases coded with
    | optional code inside =>
      obtain ⟨more, accepts⟩ := ih inside accepts
      exact ⟨more + 1, .of_choose code (.inl accepts)⟩
  | done =>
    cases coded with
    | star code => exact ⟨steps + 1, .of_choose code (.inr accepts)⟩
  | again _ _ ihFirst ihOthers =>
    cases coded with
    | star code inside back =>
      obtain ⟨more, accepts⟩ := ihOthers (.star code inside back) accepts
      obtain ⟨all, accepts⟩ := ihFirst inside (.of_jump back accepts)
      exact ⟨all + 1, .of_choose code (.inl accepts)⟩
  | once _ _ ih =>
    cases coded with
    | plus inside code => exact ih inside (.of_choose code (.inr accepts))
  | often _ _ ihFirst ihOthers =>
    cases coded with
    | plus inside code =>
      obtain ⟨more, accepts⟩ := ihOthers (.plus inside code) accepts
      exact ihFirst inside (.of_choose code (.inl accepts))

/-- A thread that accepts from a choice accepts on one of the branches, a step sooner. -/
theorem Accepts.choose {greedy : Bool} {first second place : Nat}
    (h : Accepts program text steps ⟨base, place⟩ stop)
    (found : program[base]? = some (.choose greedy first second)) :
    ∃ fewer, steps = fewer + 1 ∧ (Accepts program text fewer ⟨first, place⟩ stop ∨
      Accepts program text fewer ⟨second, place⟩ stop) := by
  obtain ⟨fewer, steps_eq, next, member, behind⟩ := h.of_goesOn found (goesOn_choose _ _ _)
  rcases mem_successors_choose.1 member with rfl | rfl
  · exact ⟨fewer, steps_eq, .inl behind⟩
  · exact ⟨fewer, steps_eq, .inr behind⟩

theorem Accepts.jump {target place : Nat} (h : Accepts program text steps ⟨base, place⟩ stop)
    (found : program[base]? = some (.jump target)) :
    ∃ fewer, steps = fewer + 1 ∧ Accepts program text fewer ⟨target, place⟩ stop := by
  obtain ⟨fewer, steps_eq, next, member, behind⟩ := h.of_goesOn found trivial
  rw [mem_successors.1 member] at behind
  exact ⟨fewer, steps_eq, behind⟩

/-- Steps that accept behind the code of an expression have gone along a match of it. -/
theorem Coded.exists_matches (coded : Coded program regex base behind)
    (accepts : Accepts program text steps ⟨base, start⟩ stop) :
    ∃ middle fewer, fewer ≤ steps ∧ Matches text regex start middle ∧
      Accepts program text fewer ⟨behind, middle⟩ stop := by
  induction coded generalizing steps start with
  | empty => exact ⟨start, steps, Nat.le_refl _, .empty start, accepts⟩
  | char found =>
    obtain ⟨fewer, rfl, next, member, accepts⟩ := accepts.of_goesOn found trivial
    obtain ⟨consumes, rfl⟩ := mem_successors.1 member
    obtain ⟨c, found, member⟩ := (Option.any_eq_true _ _).1 consumes
    exact ⟨start + 1, fewer, Nat.le_succ _, .char found member, accepts⟩
  | look found =>
    obtain ⟨fewer, rfl, next, member, accepts⟩ := accepts.of_goesOn found trivial
    obtain ⟨holds, rfl⟩ := mem_successors.1 member
    exact ⟨start, fewer, Nat.le_succ _, .look holds, accepts⟩
  | cat before after ihBefore ihAfter =>
    obtain ⟨place, fewer, le, first, accepts⟩ := ihBefore accepts
    obtain ⟨place', fewer', le', second, accepts⟩ := ihAfter accepts
    exact ⟨place', fewer', Nat.le_trans le' le, .cat first second, accepts⟩
  | alt found here leave there ihHere ihThere =>
    obtain ⟨fewer, rfl, next, member, accepts⟩ := accepts.of_goesOn found trivial
    rcases mem_successors.1 member with rfl | rfl
    · obtain ⟨place, fewer', le, inside, accepts⟩ := ihHere accepts
      obtain ⟨fewer'', steps_eq, accepts⟩ := accepts.jump leave
      exact ⟨place, fewer'', by omega, .preferred inside, accepts⟩
    · obtain ⟨place, fewer', le, inside, accepts⟩ := ihThere accepts
      exact ⟨place, fewer', by omega, .other inside, accepts⟩
  | optional found inside ih =>
    obtain ⟨fewer, rfl, accepts | accepts⟩ := accepts.choose found
    · obtain ⟨place, fewer', le, inside, accepts⟩ := ih accepts
      exact ⟨place, fewer', by omega, .taken _ inside, accepts⟩
    · exact ⟨start, fewer, Nat.le_succ _, .skipped _ _ start, accepts⟩
  | star found inside back ih =>
    -- Every round through a loop takes a step at least, so the induction is on the steps.
    induction steps using Nat.strongRecOn generalizing start with
    | ind steps ihSteps =>
      obtain ⟨fewer, rfl, accepts | accepts⟩ := accepts.choose found
      · obtain ⟨place, fewer', le, first, accepts⟩ := ih accepts
        obtain ⟨fewer'', steps_eq, accepts⟩ := accepts.jump back
        obtain ⟨place', rest, le', others, accepts⟩ := ihSteps fewer'' (by omega) accepts
        exact ⟨place', rest, by omega, .again first others, accepts⟩
      · exact ⟨start, fewer, Nat.le_succ _, .done _ _ start, accepts⟩
  | plus inside found ih =>
    induction steps using Nat.strongRecOn generalizing start with
    | ind steps ihSteps =>
      obtain ⟨place, fewer, le, first, accepts⟩ := ih accepts
      obtain ⟨fewer', steps_eq, accepts | accepts⟩ := accepts.choose found
      · obtain ⟨place', rest, le', others, accepts⟩ := ihSteps fewer' (by omega) accepts
        exact ⟨place', rest, by omega, .often first others, accepts⟩
      · exact ⟨place, fewer', by omega, .once _ first, accepts⟩

/-- The program of an expression codes it from the first instruction to the accepting one. -/
theorem exists_coded (regex : Regex) :
    ∃ behind, Coded regex.program regex 0 behind ∧ regex.program[behind]? = some .accept := by
  have placed : Placed regex.program 0 (instructions 0 regex ++ [.accept]) :=
    ⟨[], [], (List.append_nil _).symm, rfl⟩
  exact ⟨_, coded_instructions placed.left, placed.right.head⟩

/-- What the search finds at a place is a match from there. -/
theorem matches_of_matchEnd? (fits : start ≤ text.size)
    (found : regex.matchEnd? text start = some stop) : Matches text regex start stop := by
  obtain ⟨behind, coded, accepting⟩ := exists_coded regex
  have runs := runs_matchEnd? regex fits
  rw [found] at runs
  obtain ⟨thread, member, steps, accepts⟩ := runs.exists_accepts
  rw [List.mem_singleton.1 member] at accepts
  obtain ⟨middle, fewer, _, inside, accepts⟩ := coded.exists_matches accepts
  cases accepts with
  | here => exact inside
  | step found successor =>
    rw [accepting] at found
    cases found
    cases successor

/-- The search succeeds at a place if and only if the expression matches from there. -/
theorem isSome_matchEnd?_iff_matches (regex : Regex) (fits : start ≤ text.size) :
    (regex.matchEnd? text start).isSome ↔ ∃ stop, Matches text regex start stop := by
  rw [Option.isSome_iff_exists]
  constructor
  · rintro ⟨stop, found⟩
    exact ⟨stop, matches_of_matchEnd? fits found⟩
  · rintro ⟨stop, found⟩
    obtain ⟨behind, coded, accepting⟩ := exists_coded regex
    obtain ⟨steps, accepts⟩ := found.accepts coded (.here accepting)
    rw [← Option.isSome_iff_exists, isSome_matchEnd?_iff fits]
    exact ⟨stop, steps, accepts⟩

/-- The search finds something in a text if and only if the expression matches some part of it. -/
theorem isMatch_iff_matches (regex : Regex) (text : Array Char) : regex.isMatch text = true ↔
    ∃ start stop, start ≤ stop ∧ stop ≤ text.size ∧ Matches text regex start stop := by
  rw [isMatch, List.any_eq_true]
  constructor
  · rintro ⟨start, member, succeeds⟩
    have fits := Nat.le_of_lt_succ (List.mem_range.1 member)
    obtain ⟨stop, found⟩ := (isSome_matchEnd?_iff_matches regex fits).1 succeeds
    exact ⟨start, stop, found.le, found.le_size fits, found⟩
  · rintro ⟨start, stop, le, le_size, found⟩
    have fits := Nat.le_trans le le_size
    exact ⟨start, List.mem_range.2 (Nat.lt_succ_of_le fits),
      (isSome_matchEnd?_iff_matches regex fits).2 ⟨stop, found⟩⟩

end RecordSearch.Regex
