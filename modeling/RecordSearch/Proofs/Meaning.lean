import RecordSearch.Proofs.Writing
import RecordSearch.Query.Basic

/-!
# What a query means

The meaning of an expression for a record is stated directly on the texts of the record, without
conditions or prepared values.  A query matches a record if and only if its expression, or the
single term that takes its place, has this meaning.
-/

namespace RecordSearch

open Unicode (lowercase)

/-- A value is used as a regular expression only if both of its forms are one. -/
def Compiles (options : SearchOptions) (value : String) (anywhere whole : Pattern) : Prop :=
  Pattern.compile? value (!options.caseSensitive) = some anywhere ∧
    Pattern.compile? (Needle.wholeSource value) (!options.caseSensitive) = some whole

/-- A plain value always has a meaning. -/
def IsUsable (options : SearchOptions) (value : String) : Prop :=
  options.regularExpression → ∃ anywhere whole, Compiles options value anywhere whole

def FoundIn (options : SearchOptions) (value text : String) : Prop :=
  if options.regularExpression then
    ∃ anywhere whole, Compiles options value anywhere whole ∧ anywhere.isMatch text
  else if options.caseSensitive then value.toList <:+: text.toList
  else (lowercase value).toList <:+: (lowercase text).toList

def IsWhole (options : SearchOptions) (value text : String) : Prop :=
  if options.regularExpression then
    ∃ anywhere whole, Compiles options value anywhere whole ∧ whole.isMatch text
  else if options.caseSensitive then text = value
  else lowercase text = lowercase value

/-- The text compares with the value as it should. -/
def Comparison.Holds (options : SearchOptions) (value text : String) : Comparison → Prop
  | contains => FoundIn options value text
  | exact => IsWhole options value text
  | excludes => IsUsable options value ∧ ¬ FoundIn options value text

/-- Some text of the record that a term looks at satisfies the condition. -/
def Record.SomeText (record : Record) (delimiter : Char) (condition : String → Prop) : Prop :=
  condition record.entryType ∨ (∃ text ∈ record.fields.values, condition text) ∨
    ∃ keyword ∈ record.keywords delimiter, condition keyword

/-- What a field term looks at satisfies the condition.  A field that the record does not have
satisfies none. -/
def Field.Satisfies (record : Record) (delimiter : Char) (condition : String → Prop) :
    Field → Prop
  | anyField => ∃ text ∈ record.fields.values, condition text
  | anyKeyword => ∃ keyword ∈ record.keywords delimiter, condition keyword
  | entryType => condition record.entryType
  | named name => ∃ text, record.field? (lowercase name) = some text ∧ condition text

/-- The expression is true of the record. -/
def Expression.Satisfies (options : SearchOptions) (record : Record) (delimiter : Char) :
    Expression → Prop
  | term text => record.SomeText delimiter (FoundIn options text)
  | field target comparison value =>
    target.Satisfies record delimiter fun text ↦ comparison.Holds options value text
  | not inner => ¬ inner.Satisfies options record delimiter
  | and left right =>
    left.Satisfies options record delimiter ∧ right.Satisfies options record delimiter
  | or left right =>
    left.Satisfies options record delimiter ∨ right.Satisfies options record delimiter

/-- The search for a text finds it exactly where it is an infix. -/
theorem Text.occursIn_iff_infix (needle text : List Char) :
    Text.occursIn needle text = true ↔ needle <:+: text := by
  induction text with
  | nil => rw [Text.occursIn, List.isEmpty_iff, List.infix_nil]
  | cons c text ih =>
    rw [Text.occursIn, Bool.or_eq_true, List.isPrefixOf_iff_prefix, ih, List.infix_cons_iff]

namespace Needle

/-- A needle is the prepared form of a value. -/
inductive Prepares (options : SearchOptions) (value : String) : Needle → Prop
  | sensitive (plain : options.regularExpression = false)
    (sensitive : options.caseSensitive = true) :
    Prepares options value (.plain value true)
  | insensitive (plain : options.regularExpression = false)
    (insensitive : options.caseSensitive = false) :
    Prepares options value (.plain (lowercase value) false)
  | pattern {anywhere whole : Pattern} (regex : options.regularExpression = true)
    (compiles : Compiles options value anywhere whole) :
    Prepares options value (.pattern anywhere whole)
  | invalid (regex : options.regularExpression = true)
    (nothing : ∀ anywhere whole, ¬ Compiles options value anywhere whole) :
    Prepares options value .invalid

variable {options : SearchOptions} {value : String} {needle : Needle}

/-- Every value is prepared as a needle that stands for it. -/
theorem prepares_ofValue (options : SearchOptions) (value : String) :
    Prepares options value (ofValue value options) := by
  unfold ofValue ofValue?
  split
  · rename_i regex
    cases first : Pattern.compile? value (!options.caseSensitive) with
    | none =>
      refine .invalid regex fun anywhere whole compiles ↦ ?_
      rw [compiles.1] at first
      cases first
    | some anywhere =>
      cases second : Pattern.compile? (wholeSource value) (!options.caseSensitive) with
      | none =>
        refine .invalid regex fun anywhere whole compiles ↦ ?_
        rw [compiles.2] at second
        cases second
      | some whole => exact .pattern regex ⟨first, second⟩
  · rename_i plain
    split
    · rename_i sensitive
      exact .sensitive (Bool.eq_false_iff.2 plain) sensitive
    · rename_i insensitive
      exact .insensitive (Bool.eq_false_iff.2 plain) (Bool.eq_false_iff.2 insensitive)

/-- Only a value that cannot be prepared is invalid. -/
theorem ofValue_eq_invalid_iff :
    ofValue value options = invalid ↔ ofValue? value options = none := by
  unfold ofValue
  cases found : ofValue? value options with
  | none => exact iff_of_true rfl rfl
  | some needle =>
    refine iff_of_false ?_ nofun
    rintro rfl
    unfold ofValue? at found
    split at found
    · obtain ⟨anywhere, _, found⟩ := Option.bind_eq_some_iff.1 found
      obtain ⟨whole, _, found⟩ := Option.bind_eq_some_iff.1 found
      cases found
    · split at found
      · cases found
      · cases found

/-- A value compiles to one pair of patterns only. -/
theorem exists_compiles_iff {anywhere whole : Pattern}
    (compiles : Compiles options value anywhere whole) (property : Pattern → Pattern → Prop) :
    (∃ anywhere whole, Compiles options value anywhere whole ∧ property anywhere whole) ↔
      property anywhere whole := by
  constructor
  · rintro ⟨anywhere', whole', compiles', holds⟩
    have anywhere_eq : anywhere' = anywhere :=
      Option.some.inj (compiles'.1.symm.trans compiles.1)
    have whole_eq : whole' = whole := Option.some.inj (compiles'.2.symm.trans compiles.2)
    rwa [anywhere_eq, whole_eq] at holds
  · intro holds
    exact ⟨anywhere, whole, compiles, holds⟩

theorem not_exists_compiles (nothing : ∀ anywhere whole, ¬ Compiles options value anywhere whole)
    (property : Pattern → Pattern → Prop) :
    ¬ ∃ anywhere whole, Compiles options value anywhere whole ∧ property anywhere whole := by
  rintro ⟨anywhere, whole, compiles, _⟩
  exact nothing anywhere whole compiles

/-- A needle occurs exactly in the texts where the value is found. -/
theorem Prepares.occursIn_iff (h : Prepares options value needle) (text : String) :
    needle.occursIn text = true ↔ FoundIn options value text := by
  unfold FoundIn
  cases h with
  | sensitive plain sensitive =>
    simp only [plain, sensitive, occursIn, Text.occursIn_iff_infix, Bool.false_eq_true, if_false,
      if_true]
  | insensitive plain insensitive =>
    simp only [plain, insensitive, occursIn, Text.occursIn_iff_infix, Bool.false_eq_true, if_false]
  | pattern regex compiles =>
    rw [if_pos regex, exists_compiles_iff compiles fun anywhere _ ↦ anywhere.isMatch text = true]
    rfl
  | invalid regex nothing =>
    rw [if_pos regex]
    have notFound := not_exists_compiles nothing fun anywhere _ ↦ anywhere.isMatch text = true
    exact iff_of_false Bool.false_ne_true notFound

theorem Prepares.isWhole_iff (h : Prepares options value needle) (text : String) :
    needle.isWhole text = true ↔ IsWhole options value text := by
  unfold RecordSearch.IsWhole
  cases h with
  | sensitive plain sensitive =>
    simp only [plain, sensitive, isWhole, beq_iff_eq, Bool.false_eq_true, if_false, if_true]
  | insensitive plain insensitive =>
    simp only [plain, insensitive, isWhole, beq_iff_eq, Bool.false_eq_true, if_false]
  | pattern regex compiles =>
    rw [if_pos regex, exists_compiles_iff compiles fun _ whole ↦ whole.isMatch text = true]
    rfl
  | invalid regex nothing =>
    rw [if_pos regex]
    have notWhole := not_exists_compiles nothing fun _ whole ↦ whole.isMatch text = true
    exact iff_of_false Bool.false_ne_true notWhole

theorem Prepares.isUsable_iff (h : Prepares options value needle) :
    IsUsable options value ↔ needle ≠ Needle.invalid := by
  unfold IsUsable
  cases h with
  | sensitive plain => simp [plain]
  | insensitive plain => simp [plain]
  | @pattern anywhere whole regex compiles =>
    constructor
    · intro _ same
      cases same
    · intro _ _
      exact ⟨anywhere, whole, compiles⟩
  | invalid regex nothing =>
    constructor
    · intro usable
      obtain ⟨anywhere, whole, compiles⟩ := usable regex
      exact absurd compiles (nothing anywhere whole)
    · exact fun different ↦ absurd rfl different

theorem isUsable_iff_ofValue?_ne_none : IsUsable options value ↔ ofValue? value options ≠ none :=
  (prepares_ofValue options value).isUsable_iff.trans (not_congr ofValue_eq_invalid_iff)

/-- An invalid needle fails under every comparison. -/
theorem compare_eq_true_iff (needle : Needle) (comparison : Comparison) (text : String) :
    needle.compare comparison text = true ↔ match comparison with
      | .contains => needle.occursIn text = true
      | .exact => needle.isWhole text = true
      | .excludes => needle ≠ invalid ∧ ¬ needle.occursIn text = true := by
  cases needle with
  | plain text sensitive => cases comparison <;> simp [compare]
  | pattern anywhere whole => cases comparison <;> simp [compare]
  | invalid => cases comparison <;> simp [compare, occursIn, isWhole]

/-- A needle compares with a text as the value does. -/
theorem Prepares.compare_iff (h : Prepares options value needle) (comparison : Comparison)
    (text : String) :
    needle.compare comparison text = true ↔ comparison.Holds options value text := by
  rw [compare_eq_true_iff]
  cases comparison with
  | contains => exact h.occursIn_iff text
  | exact => exact h.isWhole_iff text
  | excludes => exact and_congr h.isUsable_iff.symm (not_congr (h.occursIn_iff text))

end Needle

namespace Condition

variable {options : SearchOptions} {record : Record} {delimiter : Char} {value : String}
  {needle : Needle}

theorem termHolds_iff (h : Needle.Prepares options value needle) :
    termHolds needle record delimiter = true ↔
      record.SomeText delimiter (FoundIn options value) := by
  simp only [termHolds, Record.SomeText, Bool.or_eq_true, List.any_eq_true, h.occursIn_iff,
    or_assoc]

/-- The condition on a field holds exactly when the record satisfies the comparison there. -/
theorem fieldHolds_iff {target : Field} (lower : lowercase target.name = target.name)
    (h : Needle.Prepares options value needle) (comparison : Comparison) :
    fieldHolds target comparison needle record delimiter = true ↔
      target.Satisfies record delimiter fun text ↦ comparison.Holds options value text := by
  cases target with
  | anyField =>
    simp only [fieldHolds, Field.Satisfies, List.any_eq_true, h.compare_iff]
  | anyKeyword =>
    simp only [fieldHolds, Field.Satisfies, List.any_eq_true, h.compare_iff]
  | entryType => exact h.compare_iff comparison record.entryType
  | named name =>
    rw [Field.name] at lower
    simp only [fieldHolds, Field.Satisfies, lower, Option.any_eq_true, h.compare_iff]

/-- The condition of an expression whose fields are in lower case says what the expression means. -/
theorem holds_ofExpression_iff {e : Expression}
    (lower : ∀ target ∈ e.fields, lowercase target.name = target.name) :
    (ofExpression options e).holds record delimiter = true ↔
      e.Satisfies options record delimiter := by
  induction e with
  | term text => exact termHolds_iff (Needle.prepares_ofValue options text)
  | field target comparison value =>
    exact fieldHolds_iff (lower target (List.mem_singleton_self _))
      (Needle.prepares_ofValue options value) comparison
  | not inner ih =>
    rw [ofExpression, holds, Bool.not_eq_true', ← Bool.not_eq_true, ih lower, Expression.Satisfies]
  | and left right ihLeft ihRight =>
    simp only [Expression.fields, List.mem_append, or_imp, forall_and] at lower
    rw [ofExpression, holds, Bool.and_eq_true, ihLeft lower.1, ihRight lower.2,
      Expression.Satisfies]
  | or left right ihLeft ihRight =>
    simp only [Expression.fields, List.mem_append, or_imp, forall_and] at lower
    rw [ofExpression, holds, Bool.or_eq_true, ihLeft lower.1, ihRight lower.2,
      Expression.Satisfies]

end Condition

namespace Query

/-- What takes the place of a text that does not follow the grammar is a single term. -/
def expressionOf (text : String) : Expression :=
  match Expression.parse text with
  | .ok e => e
  | .error _ => .term (Text.trimString text)

theorem lowercase_name_of_mem_fields {text : String} :
    ∀ target ∈ (expressionOf text).fields, lowercase target.name = target.name := by
  intro target member
  unfold expressionOf at member
  split at member
  · rename_i e parsed
    obtain ⟨typed, _, rfl⟩ := Expression.exists_typed_of_parse parsed target member
    rw [Field.name_ofName, Unicode.lowercase_lowercase]
  · cases member

/-- A query matches by the condition made of the expression that its text stands for. -/
theorem isMatch_eq_holds (query : Query) (record : Record) :
    query.isMatch record =
      (Condition.ofExpression query.options (expressionOf query.text)).holds record
        query.delimiter := by
  unfold isMatch interpretation Interpretation.ofText expressionOf
  cases Expression.parse query.text with
  | error => rfl
  | ok => rfl

end Query

end RecordSearch
