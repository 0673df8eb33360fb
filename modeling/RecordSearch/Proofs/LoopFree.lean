import RecordSearch.Proofs.Search

/-!
# Expressions without loops

An expression that repeats nothing has finitely many ways to match at a place, and they have an
order of preference.  Its program only goes forward, so the search ends where the first of them
ends.
-/

namespace RecordSearch.Regex

def LoopFree : Regex → Prop
  | empty => True
  | char _ => True
  | look _ => True
  | cat first second => first.LoopFree ∧ second.LoopFree
  | alt preferred other => preferred.LoopFree ∧ other.LoopFree
  | optional _ body => body.LoopFree
  | star _ _ => False
  | plus _ _ => False

/-- The ends of the matches that start at a place, in the order of preference.  Nothing is said of
loops. -/
def ends (text : Array Char) : Regex → Nat → List Nat
  | empty, place => [place]
  | char members, place => if text[place]?.any members then [place + 1] else []
  | look condition, place =>
    if condition.holds (before? text place) text[place]? then [place] else []
  | cat first second, place => (ends text first place).flatMap (ends text second)
  | alt preferred other, place => ends text preferred place ++ ends text other place
  | optional greedy body, place =>
    if greedy then ends text body place ++ [place] else place :: ends text body place
  | star _ _, _ => []
  | plus _ _, _ => []

/-- The instruction at an address leads beyond it. -/
def Instruction.Ascends (address : Nat) : Instruction → Prop
  | branch preferred other => address < preferred ∧ address < other
  | jump target => address < target
  | _ => True

def Ascends : Nat → List Instruction → Prop
  | _, [] => True
  | base, instruction :: code => instruction.Ascends base ∧ Ascends (base + 1) code

section Places

variable {program : Array Instruction} {text : Array Char} {base : Nat}
  {code first second : List Instruction} {instruction : Instruction}

/-- Code ascends when both of its parts do, each from its own address. -/
theorem ascends_append : Ascends base (first ++ second) ↔
    Ascends base first ∧ Ascends (base + first.length) second := by
  induction first generalizing base with
  | nil => simp [Ascends]
  | cons instruction first ih =>
    rw [List.cons_append, Ascends, Ascends, ih, List.length_cons, and_assoc,
      Nat.add_right_comm, Nat.add_assoc]

theorem Ascends.of_getElem? {index : Nat} (h : Ascends base code)
    (found : code[index]? = some instruction) : instruction.Ascends (base + index) := by
  induction code generalizing base index with
  | nil => cases found
  | cons first code ih =>
    cases index with
    | zero =>
      cases found
      exact h.1
    | succ index =>
      rw [List.getElem?_cons_succ] at found
      have later := ih h.2 found
      rwa [Nat.add_right_comm] at later

theorem ascends_choose (greedy : Bool) {body behind : Nat} (inside : base < body)
    (outside : base < behind) : (Instruction.choose greedy body behind).Ascends base := by
  cases greedy with
  | true => exact ⟨inside, outside⟩
  | false => exact ⟨outside, inside⟩

/-- The instructions of an expression without loops ascend. -/
theorem ascends_instructions {regex : Regex} (loopFree : regex.LoopFree) :
    Ascends base (instructions base regex) := by
  induction regex generalizing base with
  | empty => trivial
  | char => exact ⟨trivial, trivial⟩
  | look => exact ⟨trivial, trivial⟩
  | cat first second ihFirst ihSecond =>
    exact ascends_append.2 ⟨ihFirst loopFree.1, ihSecond loopFree.2⟩
  | alt preferred other ihPreferred ihOther =>
    refine ascends_append.2 ⟨⟨⟨by omega, by omega⟩, ihPreferred loopFree.1⟩, ?_, ihOther loopFree.2⟩
    simp only [Instruction.Ascends, List.length_cons]
    omega
  | optional greedy body ih =>
    exact ⟨ascends_choose greedy (by omega) (by omega), ih loopFree⟩
  | star => exact loopFree.elim
  | plus => exact loopFree.elim

/-- In code that ascends every thread runs forward. -/
theorem forward_of_ascends (h : Ascends 0 program.toList) : Forward program text := by
  intro thread instruction found next member
  rw [← Array.getElem?_toList] at found
  have ascends := h.of_getElem? found
  rw [Nat.zero_add] at ascends
  rw [mem_successors] at member
  cases instruction with
  | char =>
    obtain ⟨_, rfl⟩ := member
    exact Nat.lt_succ_self _
  | look =>
    obtain ⟨_, rfl⟩ := member
    exact Nat.lt_succ_self _
  | branch =>
    rcases member with rfl | rfl
    · exact ascends.1
    · exact ascends.2
  | jump =>
    subst member
    exact ascends
  | accept => exact member.elim

/-- The program has the code from the address `base` on. -/
def Placed (program : Array Instruction) (base : Nat) (code : List Instruction) : Prop :=
  ∃ before behind, program.toList = before ++ (code ++ behind) ∧ before.length = base

theorem Placed.head (h : Placed program base (instruction :: code)) :
    program[base]? = some instruction := by
  obtain ⟨before, behind, program_eq, rfl⟩ := h
  rw [← Array.getElem?_toList, program_eq, List.getElem?_append_right (Nat.le_refl _), Nat.sub_self]
  rfl

theorem Placed.left (h : Placed program base (first ++ second)) : Placed program base first := by
  obtain ⟨before, behind, program_eq, length_eq⟩ := h
  exact ⟨before, second ++ behind, by rw [program_eq, List.append_assoc], length_eq⟩

theorem Placed.right (h : Placed program base (first ++ second)) :
    Placed program (base + first.length) second := by
  obtain ⟨before, behind, program_eq, length_eq⟩ := h
  refine ⟨before ++ first, behind, ?_, ?_⟩
  · rw [program_eq, List.append_assoc, List.append_assoc]
  · rw [List.length_append, length_eq]

theorem Placed.tail (h : Placed program base (instruction :: code)) :
    Placed program (base + 1) code := by
  have split : Placed program base ([instruction] ++ code) := h
  exact split.right

end Places

/-! ## What the program finds -/

section Code

variable {program : Array Instruction} {text : Array Char} {base : Nat}

theorem findSome?_flatMap {α β γ : Type} (items : List α) (g : α → List β) (f : β → Option γ) :
    (items.flatMap g).findSome? f = items.findSome? fun item ↦ (g item).findSome? f := by
  rw [← List.head?_filterMap, List.filterMap_flatMap, List.head?_flatMap]
  simp only [List.head?_filterMap]

/-- A thread prefers the first of its successors that comes to an end. -/
theorem Placed.preferred {instruction : Instruction} {code : List Instruction}
    (placed : Placed program base (instruction :: code)) (forward : Forward program text)
    (goesOn : instruction.GoesOn) (place : Nat) :
    preferred program text ⟨base, place⟩ =
      (successors text ⟨base, place⟩ instruction).findSome? (preferred program text) :=
  preferred_step forward placed.head goesOn

theorem Placed.preferred_branch {first second : Nat} {code : List Instruction}
    (placed : Placed program base (.branch first second :: code)) (forward : Forward program text)
    (place : Nat) :
    Regex.preferred program text ⟨base, place⟩ =
      (Regex.preferred program text ⟨first, place⟩).or
        (Regex.preferred program text ⟨second, place⟩) := by
  rw [placed.preferred forward trivial, successors, List.findSome?_cons, List.findSome?_singleton]
  cases Regex.preferred program text ⟨first, place⟩ <;> rfl

/-- Running the code of an expression comes to the same as going on behind the code at the places
where the expression can end. -/
def FindsEnds (program : Array Instruction) (text : Array Char) (base : Nat) (regex : Regex) :
    Prop :=
  ∀ place, preferred program text ⟨base, place⟩ = (ends text regex place).findSome? fun stop ↦
    preferred program text ⟨base + (instructions base regex).length, stop⟩

variable {first second body : Regex}

theorem findsEnds_char (forward : Forward program text) {members : Unicode.CharClass}
    (placed : Placed program base [.char members]) :
    FindsEnds program text base (.char members) := by
  intro place
  rw [placed.preferred forward trivial, successors, ends]
  split
  · rfl
  · rfl

theorem findsEnds_look (forward : Forward program text) {condition : Look}
    (placed : Placed program base [.look condition]) :
    FindsEnds program text base (.look condition) := by
  intro place
  rw [placed.preferred forward trivial, successors, ends]
  split
  · rfl
  · rfl

/-- The ends of a sequence are those of its second part behind each end of the first. -/
theorem findsEnds_cat (before : FindsEnds program text base first)
    (behind : FindsEnds program text (base + (instructions base first).length) second) :
    FindsEnds program text base (.cat first second) := by
  intro place
  have stop_eq : base + (instructions base (.cat first second)).length =
      base + (instructions base first).length +
        (instructions (base + (instructions base first).length) second).length := by
    rw [instructions, List.length_append, Nat.add_assoc]
  calc
    preferred program text ⟨base, place⟩ =
        (ends text first place).findSome? fun middle ↦
          preferred program text ⟨base + (instructions base first).length, middle⟩ := before place
    _ = (ends text first place).findSome? fun middle ↦ (ends text second middle).findSome?
        fun stop ↦ preferred program text
          ⟨base + (instructions base (.cat first second)).length, stop⟩ := by
      apply findSome?_congr
      intro middle _
      rw [behind middle, stop_eq]
    _ = (ends text (.cat first second) place).findSome? fun stop ↦ preferred program text
        ⟨base + (instructions base (.cat first second)).length, stop⟩ :=
      (findSome?_flatMap _ _ _).symm

/-- The ends of the first alternative come before those of the second. -/
theorem findsEnds_alt (forward : Forward program text) {start : Nat}
    (start_eq : start = base + (instructions (base + 1) first).length + 2)
    (placed : Placed program base (.branch (base + 1) start :: (instructions (base + 1) first ++
      .jump (start + (instructions start second).length) :: instructions start second)))
    (here : FindsEnds program text (base + 1) first)
    (there : FindsEnds program text start second) :
    FindsEnds program text base (.alt first second) := by
  intro place
  have stop_eq : base + (instructions base (.alt first second)).length =
      start + (instructions start second).length := by
    simp only [instructions, List.length_append, List.length_cons, ← start_eq]
    omega
  have jump : ∀ stop, preferred program text
      ⟨base + 1 + (instructions (base + 1) first).length, stop⟩ =
        preferred program text ⟨start + (instructions start second).length, stop⟩ := by
    intro stop
    rw [placed.tail.right.preferred forward trivial, successors, List.findSome?_singleton]
  calc
    preferred program text ⟨base, place⟩ =
        (preferred program text ⟨base + 1, place⟩).or (preferred program text ⟨start, place⟩) :=
      placed.preferred_branch forward place
    _ = (ends text (.alt first second) place).findSome? fun stop ↦ preferred program text
        ⟨start + (instructions start second).length, stop⟩ := by
      rw [here place, there place, ends, List.findSome?_append]
      simp only [jump]
    _ = (ends text (.alt first second) place).findSome? fun stop ↦ preferred program text
        ⟨base + (instructions base (.alt first second)).length, stop⟩ := by
      rw [stop_eq]

theorem findsEnds_optional (forward : Forward program text) {greedy : Bool} {behind : Nat}
    (behind_eq : behind = base + (instructions (base + 1) body).length + 1)
    (placed : Placed program base
      (.choose greedy (base + 1) behind :: instructions (base + 1) body))
    (inside : FindsEnds program text (base + 1) body) :
    FindsEnds program text base (.optional greedy body) := by
  intro place
  have stop_eq : base + (instructions base (.optional greedy body)).length = behind := by
    rw [behind_eq, instructions, List.length_cons, Nat.add_assoc]
  have body_eq := inside place
  rw [Nat.add_right_comm, ← behind_eq] at body_eq
  rw [stop_eq, ends]
  cases greedy with
  | true =>
    have branch : Placed program base (.branch (base + 1) behind :: _) := placed
    rw [branch.preferred_branch forward, body_eq, if_pos rfl, List.findSome?_append,
      List.findSome?_singleton]
  | false =>
    have branch : Placed program base (.branch behind (base + 1) :: _) := placed
    rw [branch.preferred_branch forward, body_eq, if_neg Bool.false_ne_true, List.findSome?_cons]
    cases preferred program text ⟨behind, place⟩ <;> rfl

/-- The code of an expression without loops finds the ends of the expression, in their order. -/
theorem findsEnds_instructions (forward : Forward program text) {regex : Regex}
    (loopFree : regex.LoopFree) (placed : Placed program base (instructions base regex)) :
    FindsEnds program text base regex := by
  induction regex generalizing base with
  | empty =>
    intro place
    rw [ends, List.findSome?_singleton]
    rfl
  | char => exact findsEnds_char forward placed
  | look => exact findsEnds_look forward placed
  | cat first second ihFirst ihSecond =>
    exact findsEnds_cat (ihFirst loopFree.1 placed.left) (ihSecond loopFree.2 placed.right)
  | alt first second ihFirst ihSecond =>
    have branch : Placed program base (.branch (base + 1) _ :: (_ ++ .jump _ :: _)) := placed
    have next := branch.tail.right.tail
    rw [show base + 1 + (instructions (base + 1) first).length + 1 =
      base + (instructions (base + 1) first).length + 2 by omega] at next
    exact findsEnds_alt forward rfl placed (ihFirst loopFree.1 branch.tail.left)
      (ihSecond loopFree.2 next)
  | optional greedy body ih => exact findsEnds_optional forward rfl placed (ih loopFree placed.tail)
  | star => exact loopFree.elim
  | plus => exact loopFree.elim

/-- The search for an expression without loops ends where its preferred match ends. -/
theorem matchEnd?_eq_head? {regex : Regex} (loopFree : regex.LoopFree) {start : Nat}
    (h : start ≤ text.size) : regex.matchEnd? text start = (ends text regex start).head? := by
  have program_eq : regex.program.toList = instructions 0 regex ++ [.accept] := rfl
  have ascends : Ascends 0 regex.program.toList := by
    rw [program_eq]
    exact ascends_append.2 ⟨ascends_instructions loopFree, trivial, trivial⟩
  have forward : Forward regex.program text := forward_of_ascends ascends
  have placed : Placed regex.program 0 (instructions 0 regex ++ [.accept]) :=
    ⟨[], [], by rw [program_eq, List.nil_append, List.append_nil], rfl⟩
  calc
    regex.matchEnd? text start = preferred regex.program text ⟨0, start⟩ :=
      matchEnd?_eq_preferred forward h
    _ = (ends text regex start).findSome? fun stop ↦
        preferred regex.program text ⟨0 + (instructions 0 regex).length, stop⟩ :=
      findsEnds_instructions forward loopFree placed.left start
    _ = (ends text regex start).findSome? some :=
      findSome?_congr fun stop _ ↦ preferred_accept placed.right.head
    _ = (ends text regex start).head? := by rw [← List.head?_filterMap, List.filterMap_some]

end Code

end RecordSearch.Regex
