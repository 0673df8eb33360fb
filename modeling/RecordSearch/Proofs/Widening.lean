import RecordSearch.Proofs.FinalSigma
import RecordSearch.Proofs.Meaning

/-!
# Searching without regard to case

A search without regard to case compares texts in lower case.  It finds what a search with regard to
case finds, with one exception: a value with a `Σ` can have another lower case than the same
characters have inside the text where they were found.
-/

namespace RecordSearch

open Unicode (isContextFree)

namespace Expression

/-- Nothing in the expression asks for what a record does not have. -/
def IsPositive : Expression → Prop
  | term _ => True
  | field _ comparison _ => comparison ≠ .excludes
  | not _ => False
  | and left right => left.IsPositive ∧ right.IsPositive
  | or left right => left.IsPositive ∧ right.IsPositive

def searched : Expression → List String
  | term text => [text]
  | field _ .contains value => [value]
  | field _ _ _ => []
  | not inner => inner.searched
  | and left right => left.searched ++ right.searched
  | or left right => left.searched ++ right.searched

end Expression

variable {record : Record} {delimiter : Char} {condition wider : String → Prop}

theorem Record.SomeText.imp (h : ∀ text, condition text → wider text)
    (holds : record.SomeText delimiter condition) : record.SomeText delimiter wider := by
  rcases holds with ofType | ⟨text, member, found⟩ | ⟨keyword, member, found⟩
  · exact .inl (h _ ofType)
  · exact .inr (.inl ⟨text, member, h _ found⟩)
  · exact .inr (.inr ⟨keyword, member, h _ found⟩)

theorem Field.Satisfies.imp {target : Field} (h : ∀ text, condition text → wider text)
    (holds : target.Satisfies record delimiter condition) :
    target.Satisfies record delimiter wider := by
  cases target with
  | anyField | anyKeyword | named =>
    obtain ⟨text, found, holds⟩ := holds
    exact ⟨text, found, h _ holds⟩
  | entryType => exact h _ holds

/-- A text found with case is found without it, if its lower case is the same in all surroundings.
-/
theorem foundIn_insensitive {value text : String} (free : isContextFree value)
    (h : FoundIn ⟨true, false⟩ value text) : FoundIn ⟨false, false⟩ value text :=
  Unicode.lowercase_infix free h

theorem isWhole_insensitive {value text : String} (h : IsWhole ⟨true, false⟩ value text) :
    IsWhole ⟨false, false⟩ value text :=
  congrArg Unicode.lowercase h

/-- An expression without negation that holds with case holds without it. -/
theorem Expression.Satisfies.insensitive {e : Expression} (positive : e.IsPositive)
    (free : ∀ value ∈ e.searched, isContextFree value)
    (h : e.Satisfies ⟨true, false⟩ record delimiter) :
    e.Satisfies ⟨false, false⟩ record delimiter := by
  induction e with
  | term text =>
    have text_free := free text (List.mem_singleton_self text)
    exact h.imp fun _ ↦ foundIn_insensitive text_free
  | field target comparison value =>
    cases comparison with
    | contains =>
      have value_free := free value (List.mem_singleton_self value)
      exact h.imp fun _ ↦ foundIn_insensitive value_free
    | exact => exact h.imp fun _ ↦ isWhole_insensitive
    | excludes => exact absurd rfl positive
  | not inner => cases positive
  | and left right ihLeft ihRight =>
    simp only [searched, List.mem_append, or_imp, forall_and] at free
    exact ⟨ihLeft positive.1 free.1 h.1, ihRight positive.2 free.2 h.2⟩
  | or left right ihLeft ihRight =>
    simp only [searched, List.mem_append, or_imp, forall_and] at free
    exact h.imp (ihLeft positive.1 free.1) (ihRight positive.2 free.2)

namespace Query

/-- Where every value that is searched for has one lower case in all surroundings, a search without
regard to case finds all that a search with regard to case finds. -/
theorem isMatch_insensitive {text : String} {delimiter : Char} {record : Record}
    (positive : (expressionOf text).IsPositive)
    (free : ∀ value ∈ (expressionOf text).searched, isContextFree value)
    (found : isMatch ⟨text, ⟨true, false⟩, delimiter⟩ record = true) :
    isMatch ⟨text, ⟨false, false⟩, delimiter⟩ record = true := by
  rw [isMatch_eq_holds, Condition.holds_ofExpression_iff lowercase_name_of_mem_fields] at found ⊢
  exact Expression.Satisfies.insensitive positive free found

/-- The hyphen decides the form of the `Σ` before it, and `α` that of the other. -/
theorem isMatch_insensitive_hyphen :
    (expressionOf "title=ΑΣ- Σα").searched = ["ΑΣ-", "Σα"] ∧
      isMatch ⟨"title=ΑΣ- Σα", ⟨true, false⟩, ','⟩
        ((Entry.ofType "book").setField "title" "ΒΑΣ-ΣαΣ").toRecord = true ∧
      isMatch ⟨"title=ΑΣ- Σα", ⟨false, false⟩, ','⟩
        ((Entry.ofType "book").setField "title" "ΒΑΣ-ΣαΣ").toRecord = true := by
  have expression_eq : expressionOf "title=ΑΣ- Σα" =
      .and (.field (.named "title") .contains "ΑΣ-") (.term "Σα") := by
    decide +kernel
  have positive : (expressionOf "title=ΑΣ- Σα").IsPositive := by
    rw [expression_eq]
    exact ⟨nofun, trivial⟩
  have searched_eq : (expressionOf "title=ΑΣ- Σα").searched = ["ΑΣ-", "Σα"] := by
    rw [expression_eq]
    rfl
  have free : ∀ value ∈ (expressionOf "title=ΑΣ- Σα").searched, isContextFree value := by
    rw [searched_eq]
    decide +kernel
  have found : isMatch ⟨"title=ΑΣ- Σα", ⟨true, false⟩, ','⟩
      ((Entry.ofType "book").setField "title" "ΒΑΣ-ΣαΣ").toRecord = true := by
    decide +kernel
  exact ⟨searched_eq, found, isMatch_insensitive positive free found⟩

/-- The condition on values is needed: `Σ` alone becomes `σ`, and `ς` at the end of `aΣ`. -/
theorem not_isMatch_insensitive : ¬ ∀ (text : String) (delimiter : Char) (record : Record),
    (expressionOf text).IsPositive → isMatch ⟨text, ⟨true, false⟩, delimiter⟩ record = true →
      isMatch ⟨text, ⟨false, false⟩, delimiter⟩ record = true := by
  intro widens
  have expression_eq : expressionOf "Σ" = .term "Σ" := by decide +kernel
  have positive : (expressionOf "Σ").IsPositive := by
    rw [expression_eq]
    trivial
  have missed := widens "Σ" ',' ((Entry.ofType "").setField "t" "aΣ").toRecord positive
    (by decide +kernel)
  revert missed
  decide +kernel

end Query

end RecordSearch
