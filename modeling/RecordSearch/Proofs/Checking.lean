import RecordSearch.Proofs.Composition
import RecordSearch.Proofs.Meaning
import RecordSearch.Proofs.Refusal

/-!
# What is wrong with a query

To check a query its text is read anew and the values in it are tried one after the other.  To
search with it the expression is prepared as a whole.  Both visit the same values in the same order,
which is the order in which they stand in the text.  So a query is in order exactly where its text
follows the grammar and nothing in what is searched for is invalid, and otherwise the check names
the failure of the grammar or the first value that is no regular expression.
-/

namespace RecordSearch

open Grammar

namespace Token

def text? : Token → Option String
  | word text => some text
  | phrase text => some text
  | _ => none

/-- The words and phrases that are searched for, from left to right: all but the names of field
terms and the words that stand for a comparison. -/
def values : List Token → List String
  | word name :: comparison :: value :: rest =>
    if (Rule.comparison? (comparison :: value :: rest)).isSome then
      value.text?.toList ++ values rest
    else name :: values (comparison :: value :: rest)
  | word text :: rest => text :: values rest
  | phrase text :: rest => text :: values rest
  | _ :: rest => values rest
  | [] => []

theorem filterMap_text?_cons (token : Token) (rest : List Token) :
    (token :: rest).filterMap text? = token.text?.toList ++ rest.filterMap text? := by
  rw [List.filterMap_cons]
  cases token.text? with
  | none => rfl
  | some text => rfl

theorem suffix_filterMap_cons (token : Token) (rest : List Token) :
    rest.filterMap text? <:+ (token :: rest).filterMap text? := by
  rw [filterMap_text?_cons]
  exact List.suffix_append _ _

/-- What is searched for are words and phrases of the text, in their order. -/
theorem values_sublist (tokens : List Token) :
    (values tokens).Sublist (tokens.filterMap text?) := by
  fun_induction values tokens with
  | case1 name comparison value rest compares ih =>
    -- The name and the comparison are passed over.
    have behind : (value.text?.toList ++ values rest).Sublist
        ((value :: rest).filterMap text?) := by
      rw [filterMap_text?_cons]
      exact ih.append_left _
    exact (behind.trans (suffix_filterMap_cons comparison _).sublist).cons name
  | case2 name comparison value rest free ih => exact ih.cons_cons name
  | case3 text rest _ ih => exact ih.cons_cons text
  | case4 text rest ih => exact ih.cons_cons text
  | case5 token rest _ _ _ ih => exact ih.trans (suffix_filterMap_cons token rest).sublist
  | case6 => exact .slnil

/-- A word that no comparison follows is a value. -/
theorem values_word {text : String} {rest : List Token}
    (free : ∀ comparison behind, ¬ Compares rest comparison behind) :
    values (word text :: rest) = text :: values rest := by
  match rest with
  | [] => rfl
  | [_] => rfl
  | _ :: _ :: _ =>
    rw [values, comparison?_eq_none_iff.2 free]
    rfl

/-- The value behind a comparison counts, and the name before it does not. -/
theorem values_compares {name : String} {tokens rest : List Token} {comparison : Comparison}
    {value : Token} (compares : Compares tokens comparison (value :: rest)) :
    values (word name :: tokens) = value.text?.toList ++ values rest := by
  have found : Rule.comparison? tokens = some comparison := by
    rw [comparison?_eq_some_iff, compares.eq_tail]
    exact compares
  cases compares with
  | symbol => rw [values, found, if_pos Option.isSome_some]
  | word => rw [values, found, if_pos Option.isSome_some]

end Token

namespace Expression

variable {category : Category} {nesting : Nat} {tokens rest : List Token} {e : Expression}

/-- The tokens of an expression name its values in their order. -/
theorem values_of_derives (h : Derives category nesting tokens e rest) :
    Token.values tokens = e.values ++ Token.values rest := by
  induction h with
  | term free => exact Token.values_word free
  | @phrase text rest _ => rfl
  | field _ compares holds =>
    rw [Token.values_compares compares]
    rcases holds with rfl | rfl
    · rfl
    · rfl
  | group _ ih => exact ih
  | atom _ ih => exact ih
  | not _ ih => exact ih
  | operand _ ih => exact ih
  | conjunction _ ih => exact ih
  | and _ _ ihBefore ihLast =>
    rw [ihBefore, values, List.append_assoc, ← ihLast]
    rfl
  | juxtaposed _ _ ihBefore ihLast =>
    rw [ihBefore, values, List.append_assoc, ← ihLast]
  | or _ _ ihBefore ihLast =>
    rw [ihBefore, values, List.append_assoc, ← ihLast]
    rfl

/-- The values of what a text writes are those of its tokens. -/
theorem values_of_parse {text : String} (h : parse text = .ok e) :
    ∃ tokens, Token.tokenize text = .ok tokens ∧ e.values = Token.values tokens := by
  obtain ⟨tokens, nesting, cut, derives⟩ := exists_derives_of_parse h
  have values_eq := values_of_derives derives
  rw [Token.values, List.append_nil] at values_eq
  exact ⟨tokens, cut, values_eq.symm⟩

/-- The grammar has nothing against any pattern. -/
theorem parse_ne_invalidPattern (text value : String) :
    parse text ≠ .error (.invalidPattern value) := by
  intro h
  obtain cut | ⟨tokens, _, read⟩ := Rule.bind_eq_error h
  · unfold Token.tokenize at cut
    split at cut
    · cases cut
    · cases cut
  · cases locates_of_ofTokens read

end Expression

namespace Condition

def needles : Condition → List Needle
  | term needle => [needle]
  | field _ _ needle => [needle]
  | not inner => inner.needles
  | and left right => left.needles ++ right.needles
  | or left right => left.needles ++ right.needles

/-- Each value is prepared where it stands. -/
theorem needles_ofExpression (options : SearchOptions) (e : Expression) :
    (ofExpression options e).needles = e.values.map (Needle.ofValue · options) := by
  induction e with
  | term => rfl
  | field => rfl
  | not _ ih => exact ih
  | and _ _ ihLeft ihRight =>
    rw [ofExpression, needles, ihLeft, ihRight, Expression.values, List.map_append]
  | or _ _ ihLeft ihRight =>
    rw [ofExpression, needles, ihLeft, ihRight, Expression.values, List.map_append]

theorem invalid_mem_needles_iff {options : SearchOptions} {e : Expression} :
    Needle.invalid ∈ (ofExpression options e).needles ↔
      ∃ value ∈ e.values, Needle.ofValue? value options = none := by
  simp only [needles_ofExpression, List.mem_map, Needle.ofValue_eq_invalid_iff]

end Condition

/-- Only a regular expression can be invalid. -/
theorem Needle.regularExpression_of_ofValue?_eq_none {value : String} {options : SearchOptions}
    (h : ofValue? value options = none) : options.regularExpression = true := by
  unfold ofValue? at h
  split at h
  · assumption
  · split at h
    · cases h
    · cases h

/-! ## What a check reports -/

namespace Query

/-- One of the values cannot be searched for with these options, and all before it can. -/
def IsFirstInvalid (options : SearchOptions) (values : List String) (value : String) : Prop :=
  ∃ before after, values = before ++ value :: after ∧ Needle.ofValue? value options = none ∧
    ∀ earlier ∈ before, Needle.ofValue? earlier options ≠ none

variable {options : SearchOptions} {values : List String} {value : String}

theorem invalidValue?_eq_some_iff :
    invalidValue? options values = some value ↔ IsFirstInvalid options values value := by
  unfold invalidValue? IsFirstInvalid
  rw [List.find?_eq_some_iff_append]
  simp only [Option.isNone_iff_eq_none, Bool.not_eq_true', Option.isNone_eq_false_iff,
    Option.isSome_iff_ne_none]
  constructor
  · rintro ⟨invalid, before, after, values_eq, usable⟩
    exact ⟨before, after, values_eq, invalid, usable⟩
  · rintro ⟨before, after, values_eq, invalid, usable⟩
    exact ⟨invalid, before, after, values_eq, usable⟩

theorem invalidValue?_eq_none_iff :
    invalidValue? options values = none ↔
      ¬ ∃ value ∈ values, Needle.ofValue? value options = none := by
  unfold invalidValue?
  simp only [List.find?_eq_none, Option.isNone_iff_eq_none, not_exists, not_and]

variable {query : Query} {e : Expression} {failure : Failure}

/-- The check of a text that parses looks for the first value that makes no needle. -/
theorem check_of_parse (h : Expression.parse query.text = .ok e) :
    query.check = (invalidValue? query.options e.values).elim (.ok ()) fun value ↦
      .error (.invalidPattern value) := by
  rw [check, h]
  simp only [bind, Except.bind]
  cases invalidValue? query.options e.values with
  | none => rfl
  | some value => rfl

theorem check_of_parse_error (h : Expression.parse query.text = .error failure) :
    query.check = .error failure := by
  rw [check, h]
  rfl

theorem expression_of_parse (h : Expression.parse query.text = .ok e) :
    query.expression = e := by
  rw [expression, interpretation, Interpretation.ofText_eq, h]
  rfl

theorem expression_of_parse_error (h : Expression.parse query.text = .error failure) :
    query.expression = .term (Text.trimString query.text) := by
  rw [expression, interpretation, Interpretation.ofText_eq, h]
  rfl

theorem isGrammatical_iff_parse :
    query.isGrammatical = true ↔ Expression.parse query.text = .ok query.expression := by
  rw [isGrammatical, expression, interpretation, Interpretation.ofText_eq]
  cases Expression.parse query.text with
  | error =>
    refine iff_of_false Bool.false_ne_true fun same ↦ ?_
    cases same
  | ok => exact iff_of_true rfl rfl

/-- The condition of a query is that of its expression, whether the text parses or not. -/
theorem condition_eq (query : Query) :
    query.interpretation.condition = Condition.ofExpression query.options query.expression := by
  rw [expression, interpretation, Interpretation.ofText_eq]

theorem check_eq_invalidPattern_iff :
    query.check = .error (.invalidPattern value) ↔
      query.isGrammatical = true ∧
        IsFirstInvalid query.options query.expression.values value := by
  rw [isGrammatical_iff_parse, ← invalidValue?_eq_some_iff]
  cases read : Expression.parse query.text with
  | error failure =>
    rw [check_of_parse_error read]
    refine iff_of_false (fun same ↦ ?_) nofun
    cases same
    exact Expression.parse_ne_invalidPattern _ _ read
  | ok e =>
    rw [check_of_parse read, expression_of_parse read]
    cases invalidValue? query.options e.values with
    | none => exact iff_of_false nofun nofun
    | some found => simp

/-- The check passes exactly when the text parses and every value makes a needle. -/
theorem check_eq_ok_iff :
    query.check = .ok () ↔
      query.isGrammatical = true ∧
        ¬ ∃ value ∈ query.expression.values, Needle.ofValue? value query.options = none := by
  rw [isGrammatical_iff_parse, ← invalidValue?_eq_none_iff]
  cases read : Expression.parse query.text with
  | error failure =>
    rw [check_of_parse_error read]
    exact iff_of_false nofun nofun
  | ok e =>
    rw [check_of_parse read, expression_of_parse read]
    cases invalidValue? query.options e.values with
    | none => exact iff_of_true rfl ⟨rfl, rfl⟩
    | some found => exact iff_of_false nofun nofun

/-- Every other failure of a check is that of the grammar, and none of the grammar's is lost. -/
theorem parse_eq_error_iff :
    Expression.parse query.text = .error failure ↔
      query.check = .error failure ∧ ∀ value, failure ≠ .invalidPattern value := by
  constructor
  · intro read
    refine ⟨check_of_parse_error read, fun value same ↦ ?_⟩
    subst same
    exact Expression.parse_ne_invalidPattern _ _ read
  · rintro ⟨fails, other⟩
    cases read : Expression.parse query.text with
    | error refused =>
      rw [check_of_parse_error read] at fails
      cases fails
      rfl
    | ok e =>
      rw [check_of_parse read] at fails
      cases found : invalidValue? query.options e.values with
      | none =>
        rw [found] at fails
        cases fails
      | some value =>
        rw [found] at fails
        cases fails
        exact absurd rfl (other value)

/-- A check and a search agree on what a query is.  A query is in order exactly if its text follows
the grammar and the condition that records are compared with has no invalid needle.  A value is
reported exactly if the text follows the grammar and some value should be a regular expression and
is none, and it is the first such word or phrase of the text.  All that is reported otherwise is why
the text is refused, and then all of the text is searched for as one term. -/
theorem check_reports (query : Query) :
    query.interpretation.condition = Condition.ofExpression query.options query.expression ∧
    (query.check = .ok () ↔
      query.isGrammatical = true ∧ Needle.invalid ∉ query.interpretation.condition.needles) ∧
    ((∃ value, query.check = .error (.invalidPattern value)) ↔
      (∃ e, Expression.parse query.text = .ok e) ∧ query.options.regularExpression = true ∧
        ∃ value ∈ query.expression.values, Needle.ofValue? value query.options = none) ∧
    (∀ value, query.check = .error (.invalidPattern value) →
      ∃ tokens, Token.tokenize query.text = .ok tokens ∧
        query.expression.values = Token.values tokens ∧
        (Token.values tokens).Sublist (tokens.filterMap Token.text?) ∧
        IsFirstInvalid query.options (Token.values tokens) value) ∧
    ∀ failure,
      (Expression.parse query.text = .error failure ↔
        query.check = .error failure ∧ ∀ value, failure ≠ .invalidPattern value) ∧
      (Expression.parse query.text = .error failure →
        query.expression = .term (Text.trimString query.text)) := by
  refine ⟨condition_eq query, ?_, ?_, fun value fails ↦ ?_, fun failure ↦
    ⟨parse_eq_error_iff, expression_of_parse_error⟩⟩
  · rw [condition_eq, Condition.invalid_mem_needles_iff]
    exact check_eq_ok_iff
  · simp only [check_eq_invalidPattern_iff, isGrammatical_iff_parse]
    constructor
    · rintro ⟨value, read, before, after, values_eq, invalid, _⟩
      have member : value ∈ query.expression.values := by simp [values_eq]
      exact ⟨⟨_, read⟩, Needle.regularExpression_of_ofValue?_eq_none invalid, value, member,
        invalid⟩
    · rintro ⟨⟨e, read⟩, _, exists_invalid⟩
      cases found : invalidValue? query.options query.expression.values with
      | none => exact absurd exists_invalid (invalidValue?_eq_none_iff.1 found)
      | some value =>
        rw [← expression_of_parse read] at read
        exact ⟨value, read, invalidValue?_eq_some_iff.1 found⟩
  · obtain ⟨grammatical, first⟩ := check_eq_invalidPattern_iff.1 fails
    have read := isGrammatical_iff_parse.1 grammatical
    obtain ⟨tokens, cut, values_eq⟩ := Expression.values_of_parse read
    exact ⟨tokens, cut, values_eq, Token.values_sublist tokens, values_eq ▸ first⟩

/-- Two of three values are invalid, and the first of them is reported. -/
theorem check_reports_bracket :
    let query : Query := ⟨"note=x \"[\" OR *y", ⟨false, true⟩, ','⟩
    query.check = .error (.invalidPattern "[") ∧
      ∃ tokens, Token.tokenize query.text = .ok tokens ∧
        query.expression.values = Token.values tokens ∧
        (Token.values tokens).Sublist (tokens.filterMap Token.text?) ∧
        IsFirstInvalid query.options (Token.values tokens) "[" := by
  intro query
  have fails : query.check = .error (.invalidPattern "[") := by decide +kernel
  exact ⟨fails, (check_reports query).2.2.2.1 "[" fails⟩

end Query

end RecordSearch
