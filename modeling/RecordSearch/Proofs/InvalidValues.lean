import Mathlib.Algebra.Ring.Parity
import RecordSearch.Proofs.Meaning

/-!
# Values that are no regular expressions

A leaf of an expression whose value should be a regular expression and is none is false of every
record, whatever it looks at and however it compares.  Where such a value takes the place of
another, the leaf can only turn from true to false, and every `NOT` around it turns the direction
round.  So an expression with invalid values under an even number of `NOT`s finds nothing that it
would not find otherwise, and with invalid values under an odd number of them it misses nothing.
-/

namespace RecordSearch

variable {options : SearchOptions} {record : Record} {delimiter : Char} {value : String}

/-- Exactly the values that are not usable make the invalid needle. -/
theorem Needle.not_isUsable_iff :
    ¬ IsUsable options value ↔ ofValue value options = .invalid := by
  rw [isUsable_iff_ofValue?_ne_none, not_not, ofValue_eq_invalid_iff]

namespace Condition

theorem termHolds_invalid (record : Record) (delimiter : Char) :
    termHolds .invalid record delimiter = false := by
  simp [termHolds, Needle.occursIn]

theorem fieldHolds_invalid (target : Field) (comparison : Comparison) (record : Record)
    (delimiter : Char) : fieldHolds target comparison .invalid record delimiter = false := by
  have fails : Needle.compare .invalid comparison = fun _ ↦ false := by
    funext text
    rw [Needle.compare]
  cases target with
  | anyField => simp [fieldHolds, fails]
  | anyKeyword => simp [fieldHolds, fails]
  | entryType => simp [fieldHolds, fails]
  | named name => simp [fieldHolds, fails]

end Condition

namespace Expression

/-- A search for the expression finds the record. -/
def Finds (options : SearchOptions) (record : Record) (delimiter : Char) (e : Expression) : Prop :=
  (Condition.ofExpression options e).holds record delimiter = true

/-- The second expression has values that are not usable in the place of some values of the first.
The expressions stand under so many `NOT`s, and the leaves with these values under a number of
`NOT`s that is allowed. -/
inductive Spoils (options : SearchOptions) (allowed : Nat → Prop) :
    Nat → Expression → Expression → Prop
  | kept (nots : Nat) (e : Expression) : Spoils options allowed nots e e
  | term {nots : Nat} {text value : String} (place : allowed nots)
    (unusable : ¬ IsUsable options value) :
    Spoils options allowed nots (.term text) (.term value)
  | field {nots : Nat} {target : Field} {comparison : Comparison} {text value : String}
    (place : allowed nots) (unusable : ¬ IsUsable options value) :
    Spoils options allowed nots (.field target comparison text) (.field target comparison value)
  | not {nots : Nat} {e spoiled : Expression}
    (inner : Spoils options allowed (nots + 1) e spoiled) :
    Spoils options allowed nots (.not e) (.not spoiled)
  | and {nots : Nat} {left right left' right' : Expression}
    (first : Spoils options allowed nots left left')
    (second : Spoils options allowed nots right right') :
    Spoils options allowed nots (.and left right) (.and left' right')
  | or {nots : Nat} {left right left' right' : Expression}
    (first : Spoils options allowed nots left left')
    (second : Spoils options allowed nots right right') :
    Spoils options allowed nots (.or left right) (.or left' right')

/-- A value that is not usable is found in no record. -/
theorem not_finds_term (unusable : ¬ IsUsable options value) :
    ¬ Finds options record delimiter (.term value) := by
  rw [Finds, Condition.ofExpression, Needle.not_isUsable_iff.1 unusable, Condition.holds,
    Condition.termHolds_invalid]
  exact Bool.false_ne_true

theorem not_finds_field (unusable : ¬ IsUsable options value) (target : Field)
    (comparison : Comparison) :
    ¬ Finds options record delimiter (.field target comparison value) := by
  rw [Finds, Condition.ofExpression, Needle.not_isUsable_iff.1 unusable, Condition.holds,
    Condition.fieldHolds_invalid]
  exact Bool.false_ne_true

theorem finds_not_iff {e : Expression} :
    Finds options record delimiter (.not e) ↔ ¬ Finds options record delimiter e := by
  rw [Finds, Condition.ofExpression, Condition.holds, Bool.not_eq_true', ← Bool.not_eq_true]
  rfl

theorem finds_and_iff {left right : Expression} : Finds options record delimiter (.and left right) ↔
    Finds options record delimiter left ∧ Finds options record delimiter right := by
  rw [Finds, Condition.ofExpression, Condition.holds, Bool.and_eq_true]
  rfl

theorem finds_or_iff {left right : Expression} : Finds options record delimiter (.or left right) ↔
    Finds options record delimiter left ∨ Finds options record delimiter right := by
  rw [Finds, Condition.ofExpression, Condition.holds, Bool.or_eq_true]
  rfl

/-- Both directions at once, since a `NOT` exchanges them: with each of them a place that is allowed
becomes one that is not, and the other way round. -/
theorem Spoils.finds {allowed : Nat → Prop} {nots : Nat} {e spoiled : Expression}
    (h : Spoils options allowed nots e spoiled)
    (alternates : ∀ nots, allowed (nots + 1) ↔ ¬ allowed nots) :
    (allowed nots → Finds options record delimiter spoiled → Finds options record delimiter e) ∧
      (¬ allowed nots → Finds options record delimiter e →
        Finds options record delimiter spoiled) := by
  induction h with
  | kept nots e => exact ⟨fun _ found ↦ found, fun _ found ↦ found⟩
  | term place unusable =>
    exact ⟨fun _ found ↦ absurd found (not_finds_term unusable), fun other ↦ absurd place other⟩
  | field place unusable =>
    exact ⟨fun _ found ↦ absurd found (not_finds_field unusable _ _),
      fun other ↦ absurd place other⟩
  | @not nots e spoiled _ ih =>
    rw [finds_not_iff, finds_not_iff]
    constructor
    · intro place
      have deeper : ¬ allowed (nots + 1) := fun next ↦ (alternates nots).1 next place
      exact mt (ih.2 deeper)
    · intro other
      have deeper : allowed (nots + 1) := (alternates nots).2 other
      exact mt (ih.1 deeper)
  | and _ _ ihFirst ihSecond =>
    rw [finds_and_iff, finds_and_iff]
    exact ⟨fun place ↦ And.imp (ihFirst.1 place) (ihSecond.1 place),
      fun other ↦ And.imp (ihFirst.2 other) (ihSecond.2 other)⟩
  | or _ _ ihFirst ihSecond =>
    rw [finds_or_iff, finds_or_iff]
    exact ⟨fun place ↦ Or.imp (ihFirst.1 place) (ihSecond.1 place),
      fun other ↦ Or.imp (ihFirst.2 other) (ihSecond.2 other)⟩

/-- Invalid values under an even number of `NOT`s make an expression find less, and under an odd
number of `NOT`s they make it find more. -/
theorem finds_of_spoils (e spoiled : Expression) (caseSensitive : Bool) (record : Record)
    (delimiter : Char) :
    let options : SearchOptions := ⟨caseSensitive, true⟩
    (Spoils options Even 0 e spoiled →
        Finds options record delimiter spoiled → Finds options record delimiter e) ∧
      (Spoils options Odd 0 e spoiled →
        Finds options record delimiter e → Finds options record delimiter spoiled) := by
  intro options
  constructor
  · intro spoils
    exact (spoils.finds fun _ ↦ Nat.even_add_one).1 Even.zero
  · intro spoils
    have place : ¬ Odd 0 := Nat.not_odd_zero
    exact (spoils.finds fun _ ↦ Nat.odd_add_one).2 place

/-- An unclosed group in the place of a value that is excluded and of one under two `NOT`s, and a
repetition of nothing under one `NOT`. -/
theorem finds_of_spoils_unclosed :
    let options : SearchOptions := ⟨false, true⟩
    let record := ((Entry.ofType "misc").setField "title" "Fig").toRecord
    let inner (value : String) : Expression :=
      .or (.field .anyField .excludes value) (.not (.and (.term "k.wi") (.not (.term value))))
    let outer (value : String) : Expression :=
      .and (.term "f.g") (.not (.field .anyField .excludes value))
    (Spoils options Even 0 (inner "x") (inner "(") ∧ Finds options record ',' (inner "(") ∧
        Finds options record ',' (inner "x")) ∧
      Spoils options Odd 0 (outer "i") (outer "*") ∧ Finds options record ',' (outer "i") ∧
        Finds options record ',' (outer "*") := by
  intro options record inner outer
  have unclosed : ¬ IsUsable options "(" := by
    rw [Needle.not_isUsable_iff, Needle.ofValue_eq_invalid_iff, ← Option.isNone_iff_eq_none]
    decide +kernel
  have nothing : ¬ IsUsable options "*" := by
    rw [Needle.not_isUsable_iff, Needle.ofValue_eq_invalid_iff, ← Option.isNone_iff_eq_none]
    decide +kernel
  have even : Spoils options Even 0 (inner "x") (inner "(") :=
    .or (.field Even.zero unclosed)
      (.not (.and (.kept _ _) (.not (.term (by decide) unclosed))))
  have odd : Spoils options Odd 0 (outer "i") (outer "*") :=
    .and (.kept _ _) (.not (.field (by decide) nothing))
  have foundInner : Finds options record ',' (inner "(") := by
    unfold Finds
    decide +kernel
  have foundOuter : Finds options record ',' (outer "i") := by
    unfold Finds
    decide +kernel
  have fewer := finds_of_spoils (inner "x") (inner "(") false record ','
  have more := finds_of_spoils (outer "i") (outer "*") false record ','
  exact ⟨⟨even, foundInner, fewer.1 even foundInner⟩, odd, foundOuter, more.2 odd foundOuter⟩

end Expression

end RecordSearch
