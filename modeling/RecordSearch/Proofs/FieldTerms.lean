import RecordSearch.Proofs.InvalidValues
import RecordSearch.Proofs.StoredValues
import RecordSearch.Proofs.WholeTexts

/-!
# Terms and field terms

A field term looks at some texts of a record and holds if one of them compares with its value as it
should.  A term is the disjunction of three field terms that look at everything between them.  From
what each field term looks at it follows which of them say more than others: a field of an entry is
one of its fields, and a value that is all of a text also occurs in it.  Only where a field is
present and the value can be searched for at all is a value excluded just where it is not found.
-/

namespace RecordSearch

variable {options : SearchOptions} {record : Record} {delimiter : Char} {value text : String}

/-- A value that is all of a text occurs in it. -/
theorem IsWhole.foundIn (h : IsWhole options value text) : FoundIn options value text := by
  obtain ⟨caseSensitive, regularExpression⟩ := options
  cases regularExpression with
  | true =>
    obtain ⟨anywhere, whole, compiles, matched⟩ := h
    refine ⟨anywhere, whole, compiles, ?_⟩
    have inside : Regex.Matches text.toList.toArray anywhere.regex 0 text.toList.toArray.size := by
      rw [← Regex.isMatch_around_whole, ← Needle.regex_whole_of_compiles compiles]
      exact matched
    exact (Regex.isMatch_iff_matches _ _).2 ⟨0, _, Nat.zero_le _, Nat.le_refl _, inside⟩
  | false =>
    cases caseSensitive with
    | true =>
      have text_eq : text = value := h
      rw [text_eq]
      exact List.infix_refl value.toList
    | false =>
      have lower_eq : Unicode.lowercase text = Unicode.lowercase value := h
      have found : (Unicode.lowercase value).toList <:+: (Unicode.lowercase text).toList :=
        lower_eq ▸ List.infix_refl (Unicode.lowercase text).toList
      exact found

/-- The texts of a record that a field term looks at. -/
def Field.texts (record : Record) (delimiter : Char) : Field → List String
  | anyField => record.fields.values
  | anyKeyword => record.keywords delimiter
  | entryType => [record.entryType]
  | named name => (record.field? name).toList

/-- A field of an entry is one of its fields. -/
theorem Entry.mem_values_of_field? {entry : Entry} {name : String}
    (h : entry.field? name = some value) : value ∈ entry.fields.values :=
  List.mem_map.2 ⟨(name, value), Fields.mem_entries_iff.2 h, rfl⟩

namespace Expression

variable {target : Field} {comparison : Comparison}

theorem finds_field_iff : Finds options record delimiter (.field target comparison value) ↔
    ∃ text ∈ target.texts record delimiter, comparison.Holds options value text := by
  have compares := (Needle.prepares_ofValue options value).compare_iff comparison
  unfold Finds
  rw [Condition.ofExpression, Condition.holds]
  cases target with
  | anyField | anyKeyword =>
    simp only [Condition.fieldHolds, Field.texts, List.any_eq_true, compares]
  | entryType =>
    simp only [Condition.fieldHolds, Field.texts, List.mem_singleton, exists_eq_left, compares]
  | named name =>
    simp only [Condition.fieldHolds, Field.texts, Option.any_eq_true, Option.mem_toList, compares]

/-- A term says what three field terms say. -/
theorem finds_term_iff : Finds options record delimiter (.term value) ↔
    Finds options record delimiter (.field .entryType .contains value) ∨
      Finds options record delimiter (.field .anyField .contains value) ∨
      Finds options record delimiter (.field .anyKeyword .contains value) := by
  simp only [finds_field_iff, Field.texts, Comparison.Holds, List.mem_singleton, exists_eq_left]
  exact Condition.termHolds_iff (Needle.prepares_ofValue options value)

theorem finds_contains_of_exact (h : Finds options record delimiter (.field target .exact value)) :
    Finds options record delimiter (.field target .contains value) := by
  rw [finds_field_iff] at h ⊢
  obtain ⟨text, member, isWhole⟩ := h
  exact ⟨text, member, IsWhole.foundIn isWhole⟩

/-- One field has one text or none. -/
theorem finds_excludes_iff {name : String} :
    Finds options record delimiter (.field (.named name) .excludes value) ↔
      record.field? name ≠ none ∧ Needle.ofValue? value options ≠ none ∧
        ¬ Finds options record delimiter (.field (.named name) .contains value) := by
  rw [finds_field_iff, finds_field_iff, ← Needle.isUsable_iff_ofValue?_ne_none]
  simp only [Field.texts, Comparison.Holds]
  cases record.field? name with
  | none => simp
  | some text => simp

variable {entry : Entry}

theorem finds_anyField_of_named {name : String}
    (h : Finds options entry.toRecord delimiter (.field (.named name) comparison value)) :
    Finds options entry.toRecord delimiter (.field .anyField comparison value) := by
  rw [finds_field_iff] at h ⊢
  obtain ⟨text, member, compares⟩ := h
  exact ⟨text, Entry.mem_values_of_field? (Option.mem_toList.1 member), compares⟩

theorem finds_term_of_field
    (h : Finds options entry.toRecord delimiter (.field target .contains value)) :
    Finds options entry.toRecord delimiter (.term value) := by
  rw [finds_term_iff]
  cases target with
  | anyField => exact .inr (.inl h)
  | anyKeyword => exact .inr (.inr h)
  | entryType => exact .inl h
  | named name => exact .inr (.inl (finds_anyField_of_named h))

/-- A term finds what `=` finds in the type, in any field or in any keyword.  A field is found to
exclude a value if and only if it is there, the value can be searched for, and `=` does not find it.
What `==` finds is found by `=`.  In an entry, what is found in one field is found in any field by
the same comparison, and what `=` finds is found by the term. -/
theorem finds_leaves (options : SearchOptions) (delimiter : Char) (value : String) :
    (∀ record : Record,
      (Finds options record delimiter (.term value) ↔
        Finds options record delimiter (.field .entryType .contains value) ∨
          Finds options record delimiter (.field .anyField .contains value) ∨
          Finds options record delimiter (.field .anyKeyword .contains value)) ∧
      (∀ name, Finds options record delimiter (.field (.named name) .excludes value) ↔
        record.field? name ≠ none ∧ Needle.ofValue? value options ≠ none ∧
          ¬ Finds options record delimiter (.field (.named name) .contains value)) ∧
      ∀ target, Finds options record delimiter (.field target .exact value) →
        Finds options record delimiter (.field target .contains value)) ∧
    ∀ entry : Entry,
      (∀ name comparison,
        Finds options entry.toRecord delimiter (.field (.named name) comparison value) →
          Finds options entry.toRecord delimiter (.field .anyField comparison value)) ∧
      ∀ target, Finds options entry.toRecord delimiter (.field target .contains value) →
        Finds options entry.toRecord delimiter (.term value) := by
  refine ⟨fun record ↦ ⟨finds_term_iff, ?_, ?_⟩, fun entry ↦ ⟨?_, ?_⟩⟩
  · exact fun name ↦ finds_excludes_iff
  · exact fun target ↦ finds_contains_of_exact
  · exact fun name comparison ↦ finds_anyField_of_named
  · exact fun target ↦ finds_term_of_field

/-- The second alternative is all of the field, and the first one, which is preferred, only a part
of it. -/
theorem finds_leaves_alternatives :
    let options : SearchOptions := ⟨false, true⟩
    let record := ((Entry.ofType "misc").setField "title" "Fig").toRecord
    Finds options record ',' (.field (.named "title") .exact "f|f.g") ∧
      Finds options record ',' (.field .anyField .exact "f|f.g") ∧
      Finds options record ',' (.field (.named "title") .contains "f|f.g") ∧
      Finds options record ',' (.term "f|f.g") := by
  intro options record
  have exact : Finds options record ',' (.field (.named "title") .exact "f|f.g") := by
    unfold Finds
    decide +kernel
  obtain ⟨all, entries⟩ := finds_leaves options ',' "f|f.g"
  obtain ⟨anywhere, term⟩ := entries ((Entry.ofType "misc").setField "title" "Fig")
  have contains := (all record).2.2 (.named "title") exact
  exact ⟨exact, anywhere "title" .exact exact, contains, term (.named "title") contains⟩

end Expression

end RecordSearch
