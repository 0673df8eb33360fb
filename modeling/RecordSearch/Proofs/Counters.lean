import RecordSearch.Proofs.Following

/-!
# The counters of a reader

Whatever rule is called, in whatever state that the limits allow, the call ends, and a larger budget
changes nothing about it.  The counters respect their limits all the way, and the depth is never
less than it was at the start.  If an expression comes of the call, the depth is as it was, at least
one token has been passed, and every leaf of the expression has been counted once.
-/

namespace RecordSearch

open Grammar

namespace Reading

section Budgets

variable {α β : Type}

/-- Where one reading has an outcome, the other has the same. -/
def Extends (reading other : Reading α) : Prop :=
  ∀ journey outcome, reading journey = some outcome → other journey = some outcome

theorem Extends.refl (reading : Reading α) : Extends reading reading := fun _ _ ends ↦ ends

theorem extends_exhausted (reading : Reading α) : Extends exhausted reading :=
  fun _ _ ends ↦ nomatch ends

/-- Readings one after the other are extended one by one. -/
theorem Extends.bind {reading other : Reading α} {more more' : α → Reading β}
    (first : Extends reading other) (second : ∀ a, Extends (more a) (more' a)) :
    Extends (reading >>= more) (other >>= more') := by
  intro journey outcome ends
  cases found : reading journey with
  | none =>
    change (reading journey).bind _ = _ at ends
    rw [found] at ends
    cases ends
  | some middle =>
    obtain ⟨stop | a, journey'⟩ := middle
    · rw [bind_error found] at ends
      rw [bind_error (first _ _ found), ends]
    · rw [bind_ok found] at ends
      rw [bind_ok (first _ _ found)]
      exact second a _ _ ends

/-- With one more in the budget, every run that ended still ends as it did. -/
structure Grows (budget : Nat) : Prop where
  disjunction : Extends (disjunction budget) (disjunction (budget + 1))
  moreConjunctions : ∀ left,
    Extends (moreConjunctions budget left) (moreConjunctions (budget + 1) left)
  conjunction : Extends (conjunction budget) (conjunction (budget + 1))
  moreOperands : ∀ left, Extends (moreOperands budget left) (moreOperands (budget + 1) left)
  operand : Extends (operand budget) (operand (budget + 1))
  atom : Extends (atom budget) (atom (budget + 1))

/-- One call more in the budget extends the readings of every category. -/
theorem grows (budget : Nat) : Grows budget := by
  -- The rules call each other with one less, so they are taken together.
  induction budget with
  | zero =>
    exact ⟨extends_exhausted _, fun _ ↦ extends_exhausted _, extends_exhausted _,
      fun _ ↦ extends_exhausted _, extends_exhausted _, extends_exhausted _⟩
  | succ budget ih =>
    constructor
    case disjunction => exact ih.conjunction.bind ih.moreConjunctions
    case moreConjunctions =>
      intro left
      refine (Extends.refl _).bind fun goesOn ↦ ?_
      cases goesOn with
      | false => exact .refl _
      | true => exact ih.conjunction.bind fun right ↦ ih.moreConjunctions _
    case conjunction => exact ih.operand.bind ih.moreOperands
    case moreOperands =>
      intro left
      refine (Extends.refl _).bind fun explicit ↦ (Extends.refl _).bind fun next? ↦ ?_
      split
      · exact ih.operand.bind fun right ↦ ih.moreOperands _
      · exact .refl _
    case operand =>
      refine (Extends.refl _).bind fun negated ↦ ?_
      cases negated with
      | false => exact ih.atom
      | true => exact (Extends.refl _).bind fun _ ↦ ih.operand.bind fun _ ↦ .refl _
    case atom =>
      refine (Extends.refl _).bind fun start ↦ (Extends.refl _).bind fun token? ↦ ?_
      split
      · exact .refl _
      · exact (Extends.refl _).bind fun _ ↦ ih.disjunction.bind fun _ ↦ .refl _
      · exact .refl _
      · exact .refl _
      · exact .refl _

theorem extends_ofCategory (category : Category) {budget larger : Nat} (le : budget ≤ larger) :
    Extends (ofCategory category budget) (ofCategory category larger) := by
  induction le with
  | refl => exact .refl _
  | @step larger _ ih =>
    intro journey outcome ends
    have grown := grows larger
    have ends := ih journey outcome ends
    cases category with
    | atom => exact grown.atom _ _ ends
    | operand => exact grown.operand _ _ ends
    | conjunction => exact grown.conjunction _ _ ends
    | disjunction => exact grown.disjunction _ _ ends

end Budgets

section Calls

variable {reader : Reader} {category : Category} {level : Nat} {e : Expression}
  {stop : Cursor}

/-- The rule of a category reads only phrases of the category. -/
theorem sound_ofCategory (level : Nat) (category : Category) :
    Rule.Sound category level (Rule.ofCategory level category) := by
  cases category with
  | atom => exact Rule.atom_sound fun _ ↦ Rule.operand_sound _
  | operand => exact Rule.operand_sound level
  | conjunction => exact Rule.conjunction_sound (Rule.operand_sound level)
  | disjunction => exact Rule.disjunction_sound (Rule.operand_sound level)

/-- What a phrase adds to the counters. -/
theorem counts_of_spans (spans : Rule.Spans category level reader.cursor e stop) :
    reader.position < stop.index ∧ stop.terms = reader.terms + e.leaves := by
  obtain ⟨consumed, rest_eq, index_eq, _⟩ := spans.replace
  have shorter := spans.length_lt
  rw [rest_eq, List.length_append] at shorter
  have terms_eq := congrArg Cursor.terms spans.stop_eq
  change stop.index = reader.position + consumed.length at index_eq
  exact ⟨by omega, terms_eq⟩

/-- A call within the limits ends, whichever rule is called.  Its result is that of the rule. -/
theorem ofCategory_keeps_counters (category : Category) (reader : Reader) (within : reader.Within) :
    ∃ result after visited,
      (∀ budget, 4 * (reader.tokens.length - reader.position + 1) ≤ budget →
        (ofCategory category budget).run reader = some (result, ⟨after, visited⟩)) ∧
      (∀ state ∈ after :: visited, reader.Inside state) ∧
      result ≠ .error .underflow ∧
      (∀ e, result = .ok e → after.tokens = reader.tokens ∧ after.depth = reader.depth ∧
        reader.position < after.position ∧ after.terms = reader.terms + e.leaves ∧
        Rule.ofCategory (maxDepth - reader.depth) category reader.cursor = .ok (e, after.cursor)) ∧
      ∀ reason, result = .error (.failure reason) →
        Rule.ofCategory (maxDepth - reader.depth) category reader.cursor = .error reason := by
  have depth_eq : reader.depth + (maxDepth - reader.depth) = maxDepth :=
    Nat.add_sub_cancel' within.depth_le
  have enough : 4 * reader.cursor.rest.length + 4 ≤
      4 * (reader.tokens.length - reader.position + 1) := by
    change 4 * (reader.tokens.drop reader.position).length + 4 ≤ _
    rw [List.length_drop]
    omega
  obtain ⟨result, after, visited, ends, answers, inside⟩ :=
    follows_ofCategory _ category within.inside depth_eq rfl enough []
  rw [List.append_nil] at ends
  refine ⟨result, after, visited, fun budget le ↦ extends_ofCategory category le _ _ ends, inside,
    ?_⟩
  obtain ⟨e, stop, found, rfl, rfl⟩ | ⟨reason, found, rfl⟩ := answers.of_expects
  · have spans := sound_ofCategory _ category found
    obtain ⟨moved, counted⟩ := counts_of_spans spans
    refine ⟨nofun, ?_, nofun⟩
    rintro _ ⟨⟩
    exact ⟨rfl, rfl, moved, counted, (cursor_moveTo spans).symm ▸ found⟩
  · refine ⟨nofun, nofun, ?_⟩
    rintro _ ⟨⟩
    exact found

/-- `(a contains b) OR NOT "c"` behind another word, where one more level may open and two more
terms may follow. -/
theorem ofCategory_keeps_counters_deep :
    let reader : Reader :=
      ⟨[.word "x", .leftParen, .word "a", .compare .contains, .word "b", .rightParen, .or, .not,
        .phrase "c"], 1, 127, 1022⟩
    let e : Expression := .or (.field (.named "a") .contains "b") (.not (.term "c"))
    reader.Within ∧ ∃ visited,
      (disjunction 40).run reader = some (.ok e, ⟨⟨reader.tokens, 9, 127, 1024⟩, visited⟩) ∧
      ∀ state ∈ visited, 127 ≤ state.depth := by
  intro reader e
  have within : reader.Within := ⟨by decide, by decide, by decide⟩
  have found : Rule.ofCategory 1 .disjunction reader.cursor = .ok (e, ⟨[], 9, 1024⟩) := by
    decide +kernel
  obtain ⟨result, ⟨tokens, position, depth, terms⟩, visited, ends, inside, noUnderflow, succeeds,
    fails⟩ := ofCategory_keeps_counters .disjunction reader within
  refine ⟨within, visited, ?_, fun state member ↦
    (inside state (List.mem_cons_of_mem _ member)).depth_ge⟩
  match result with
  | .error .underflow => exact absurd rfl noUnderflow
  | .error (.failure reason) => cases found.symm.trans (fails reason rfl)
  | .ok e' =>
    obtain ⟨rfl, rfl, -, -, found'⟩ := succeeds e' rfl
    have same := found.symm.trans found'
    injection same with same
    obtain ⟨rfl, cursor_eq⟩ := Prod.mk.inj same
    obtain ⟨-, rfl, rfl⟩ := Cursor.mk.inj cursor_eq
    exact ends 40 (by decide)

end Calls

end Reading

end RecordSearch
