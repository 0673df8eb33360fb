import RecordSearch.Proofs.Blame

/-!
# Where and why a query is refused

Tokens are viable if further tokens can make a query of them.  When reading fails for another reason
than a limit, the failure says exactly how far the tokens are viable.  An unexpected token is the
first with which they are not.  A missing term, parenthesis or value means that all of them are, and
that only the end came too early.  An invalid name means that they are not, however they go on.
-/

namespace RecordSearch

namespace Grammar

/-- The tokens write some expression, in whatever nesting and with however many terms. -/
def Accepts (tokens : List Token) : Prop := ∃ nesting e, Derives .disjunction nesting tokens e []

/-- The tokens are the beginning of tokens that write an expression. -/
def Viable (tokens : List Token) : Prop := ∃ whole, tokens <+: whole ∧ Accepts whole

variable {tokens rest : List Token}

theorem Viable.of_append {before after : List Token} (h : Viable (before ++ after)) :
    Viable before := by
  obtain ⟨whole, prefixed, accepts⟩ := h
  exact ⟨whole, (List.prefix_append before after).trans prefixed, accepts⟩

theorem Completable.viable (h : Completable .disjunction rest tokens) : Viable tokens := by
  obtain ⟨more, completes⟩ := h
  obtain ⟨_, nesting, e, derives⟩ := completes [] detached_nil
  rw [List.append_nil] at derives
  exact ⟨tokens ++ more, List.prefix_append tokens more, nesting, e, derives⟩

end Grammar

namespace Failure

/-- The query is refused only for being too large. -/
def isLimit : Failure → Bool
  | tooDeep | tooManyTerms => true
  | _ => false

/-- The query is refused only for ending where it does. -/
def asksForMore : Failure → Bool
  | unexpectedEnd _ | missingValue _ => true
  | _ => false

theorem isLimit_eq_false_of_asksForMore {failure : Failure} (h : failure.asksForMore = true) :
    failure.isLimit = false := by
  cases failure with
  | tooDeep => cases h
  | tooManyTerms => cases h
  | _ => rfl

end Failure

namespace Expression

open Grammar

variable {text : String} {tokens seen : List Token} {failure : Failure}

/-- What a failure tells about the tokens of a query. -/
inductive Locates (tokens : List Token) : Failure → Prop
  | unexpectedToken {before after : List Token} {token : Token}
    (tokens_eq : tokens = before ++ token :: after) (viable : Viable before)
    (stuck : ¬ Viable (before ++ [token])) :
    Locates tokens (.unexpectedToken before.length token)
  | unexpectedEnd {expected : Expectation} (viable : Viable tokens)
    (incomplete : ¬ Accepts tokens) : Locates tokens (.unexpectedEnd expected)
  | missingValue {name : String} (viable : Viable tokens) (incomplete : ¬ Accepts tokens) :
    Locates tokens (.missingValue name)
  | invalidFieldName {name : String} (member : .word name ∈ tokens ∨ .phrase name ∈ tokens)
    (stuck : ¬ Viable tokens) : Locates tokens (.invalidFieldName name)
  | tooDeep : Locates tokens .tooDeep
  | tooManyTerms : Locates tokens .tooManyTerms

/-- Tokens that are refused, and not at a limit, write no expression. -/
theorem not_accepts_of_ofTokens (h : ofTokens tokens = .error failure)
    (unlimited : failure.isLimit = false) : ¬ Accepts tokens := by
  rintro ⟨nesting, e, derives⟩
  have verdict := ofTokens_verdict derives
  rw [h] at verdict
  cases verdict with
  | tooDeep => cases unlimited
  | tooManyTerms => cases unlimited

/-- Tokens that fail with anything behind them are not viable. -/
theorem not_viable_of_ofTokens (h : ∀ unseen, ofTokens (seen ++ unseen) = .error failure)
    (unlimited : failure.isLimit = false) : ¬ Viable seen := by
  rintro ⟨whole, ⟨unseen, rfl⟩, accepts⟩
  exact not_accepts_of_ofTokens (h unseen) unlimited accepts

theorem ofTokens_eq_error
    (h : Rule.ofCategory maxDepth .disjunction ⟨tokens, 0, 0⟩ = .error failure) :
    ofTokens tokens = .error failure := by
  change Rule.disjunction (Rule.operand maxDepth) ⟨tokens, 0, 0⟩ = _ at h
  rw [ofTokens, h]
  rfl

theorem ofTokens_eq_error_of_rest {e : Expression} {stop : Cursor} {token : Token}
    {after : List Token}
    (h : Rule.disjunction (Rule.operand maxDepth) ⟨tokens, 0, 0⟩ = .ok (e, stop))
    (stop_eq : stop.rest = token :: after) :
    ofTokens tokens = .error (stop.unexpected token) := by
  obtain ⟨rest, index, terms⟩ := stop
  cases stop_eq
  rw [ofTokens, h]
  rfl

/-- What is blamed from the first token on is located among the tokens. -/
theorem locates_of_blames (h : ofTokens tokens = .error failure)
    (blames : Rule.Blames maxDepth .disjunction ⟨tokens, 0, 0⟩ failure) :
    Locates tokens failure := by
  cases blames with
  | @unexpectedToken index seen unseen token rest_eq index_eq completable persists =>
    rw [Nat.zero_add] at index_eq
    subst index_eq
    exact .unexpectedToken rest_eq completable.viable <|
      not_viable_of_ofTokens (fun unseen ↦ ofTokens_eq_error (persists unseen).2) rfl
  | unexpectedEnd completable =>
    exact .unexpectedEnd completable.viable (not_accepts_of_ofTokens h rfl)
  | missingValue completable =>
    exact .missingValue completable.viable (not_accepts_of_ofTokens h rfl)
  | invalidFieldName member persists =>
    exact .invalidFieldName member <|
      not_viable_of_ofTokens (fun unseen ↦ ofTokens_eq_error (persists unseen).2) rfl
  | tooDeep => exact .tooDeep
  | tooManyTerms => exact .tooManyTerms

/-- A token that is left over behind a whole query. -/
theorem locates_leftover {e : Expression} {stop : Cursor} {token : Token} {after : List Token}
    (before : Rule.Spans .disjunction maxDepth ⟨tokens, 0, 0⟩ e stop)
    (ends : Rule.EndsDisjunction stop.rest) (stop_eq : stop.rest = token :: after) :
    Locates tokens (stop.unexpected token) := by
  obtain ⟨consumed, rest_eq, index_eq, replace⟩ := before.replace
  rw [stop_eq] at rest_eq ends replace
  dsimp only at rest_eq index_eq
  rw [Nat.zero_add] at index_eq
  have viable : Viable consumed := by
    obtain ⟨n, _, derives⟩ := (replace [] (detached_nil.admits _)).derives
    exact ⟨consumed, List.prefix_rfl, n, e, by simpa using derives⟩
  have persists : ∀ unseen, ofTokens (consumed ++ [token] ++ unseen) =
      .error (.unexpectedToken consumed.length token) := by
    intro unseen
    have spans := replace (token :: unseen)
      (admits_cons_of_not_value ends.isValue_eq_false after unseen)
    have left := ofTokens_eq_error_of_rest (spans.disjunction_eq (ends.replace unseen)) rfl
    rwa [Cursor.unexpected, index_eq, ← List.singleton_append, ← List.append_assoc] at left
  rw [Cursor.unexpected, index_eq]
  exact .unexpectedToken rest_eq viable (not_viable_of_ofTokens persists rfl)

/-- Every failure says where and why the tokens are no query. -/
theorem locates_of_ofTokens (h : ofTokens tokens = .error failure) : Locates tokens failure := by
  obtain fails | ⟨⟨e, stop⟩, found, rest⟩ := Rule.bind_eq_error h
  · exact locates_of_blames h (Rule.blaming_disjunction (Rule.blaming_operand maxDepth) fails)
  · have sound : Rule.Sound .operand maxDepth (Rule.operand maxDepth) :=
      Rule.operand_sound maxDepth
    dsimp only at rest
    split at rest
    · cases rest
    · rename_i token after stop_eq
      cases rest
      exact locates_leftover (Rule.disjunction_sound sound found)
        (Rule.disjunction_stops sound found) stop_eq

/-- Tokens are viable and not accepted exactly where a failure asks for more of them. -/
theorem Locates.asksForMore_iff (h : Locates tokens failure) (unlimited : failure.isLimit = false) :
    failure.asksForMore = true ↔ Viable tokens := by
  cases h with
  | @unexpectedToken before after token tokens_eq viable stuck =>
    refine iff_of_false Bool.false_ne_true fun whole ↦ ?_
    have longer : Viable ((before ++ [token]) ++ after) := by
      rwa [List.append_assoc, List.singleton_append, ← tokens_eq]
    exact stuck longer.of_append
  | unexpectedEnd viable => exact iff_of_true rfl viable
  | missingValue viable => exact iff_of_true rfl viable
  | invalidFieldName _ stuck => exact iff_of_false Bool.false_ne_true stuck
  | tooDeep => cases unlimited
  | tooManyTerms => cases unlimited

/-- Tokens that ask for more write no expression yet. -/
theorem Locates.not_accepts (h : Locates tokens failure) (asks : failure.asksForMore = true) :
    ¬ Accepts tokens := by
  cases h with
  | unexpectedEnd _ incomplete => exact incomplete
  | missingValue _ incomplete => exact incomplete
  | unexpectedToken => cases asks
  | invalidFieldName => cases asks
  | tooDeep => cases asks
  | tooManyTerms => cases asks

theorem accepts_of_ofTokens {e : Expression} (h : ofTokens tokens = .ok e) : Accepts tokens := by
  obtain ⟨⟨nesting, _, derives⟩, _⟩ := writes_of_ofTokens h
  exact ⟨nesting, e, derives⟩

/-- Tokens that are a beginning and not accepted themselves can be continued. -/
theorem viable_and_not_accepts_iff :
    Viable tokens ∧ ¬ Accepts tokens ↔
      ¬ Accepts tokens ∧ ∃ more, more ≠ [] ∧ Accepts (tokens ++ more) := by
  constructor
  · rintro ⟨⟨whole, ⟨more, rfl⟩, accepts⟩, incomplete⟩
    refine ⟨incomplete, more, ?_, accepts⟩
    rintro rfl
    rw [List.append_nil] at accepts
    exact incomplete accepts
  · rintro ⟨incomplete, more, _, accepts⟩
    exact ⟨⟨tokens ++ more, List.prefix_append tokens more, accepts⟩, incomplete⟩

/-- A failure to read a text says how far its tokens are viable.  The token that is unexpected is
the first with which they are not.  A missing term, parenthesis or value stands for tokens that only
have to go on, and an invalid name for tokens that cannot go on in any way.  So if no limit is
broken, the failure asks for more exactly where more can help. -/
theorem parse_error_locates (h : Token.tokenize text = .ok tokens) :
    (∀ index token, parse text = .error (.unexpectedToken index token) →
      tokens[index]? = some token ∧ Viable (tokens.take index) ∧
        ¬ Viable (tokens.take (index + 1))) ∧
    (∀ failure, parse text = .error failure → failure.asksForMore = true →
      Viable tokens ∧ ¬ Accepts tokens) ∧
    (∀ name, parse text = .error (.invalidFieldName name) →
      (.word name ∈ tokens ∨ .phrase name ∈ tokens) ∧ ¬ Viable tokens) ∧
    ((∀ failure, parse text = .error failure → failure.isLimit = false) →
      ((∃ failure, parse text = .error failure ∧ failure.asksForMore = true) ↔
        ¬ Accepts tokens ∧ ∃ more, more ≠ [] ∧ Accepts (tokens ++ more))) := by
  have parse_eq : parse text = ofTokens tokens := by
    simp only [parse, h]
    rfl
  rw [parse_eq]
  refine ⟨fun index token fails ↦ ?_, fun failure fails asks ↦ ?_, fun name fails ↦ ?_,
    fun unlimited ↦ ?_⟩
  · have located := locates_of_ofTokens fails
    cases located with
    | @unexpectedToken before after _ tokens_eq viable stuck =>
      subst tokens_eq
      refine ⟨by simp, by simpa using viable, ?_⟩
      rwa [List.take_length_add_append]
  · have located := locates_of_ofTokens fails
    have unlimited := Failure.isLimit_eq_false_of_asksForMore asks
    exact ⟨(located.asksForMore_iff unlimited).1 asks, located.not_accepts asks⟩
  · have located := locates_of_ofTokens fails
    cases located with
    | invalidFieldName member stuck => exact ⟨member, stuck⟩
  · rw [← viable_and_not_accepts_iff]
    constructor
    · rintro ⟨failure, fails, asks⟩
      have located := locates_of_ofTokens fails
      exact ⟨(located.asksForMore_iff (unlimited failure fails)).1 asks, located.not_accepts asks⟩
    · rintro ⟨viable, incomplete⟩
      cases read : ofTokens tokens with
      | ok e => exact absurd (accepts_of_ofTokens read) incomplete
      | error failure =>
        have located := locates_of_ofTokens read
        exact ⟨failure, rfl, (located.asksForMore_iff (unlimited failure read)).2 viable⟩

/-- A group can go on behind a name and a symbol, but not with `AND`. -/
theorem viable_group_before_and :
    Token.tokenize "a (b=AND c)" =
        .ok [.word "a", .leftParen, .word "b", .compare .contains, .and, .word "c", .rightParen] ∧
      Viable [.word "a", .leftParen, .word "b", .compare .contains] ∧
      ¬ Viable [.word "a", .leftParen, .word "b", .compare .contains, .and] := by
  have tokens : Token.tokenize "a (b=AND c)" =
      .ok [.word "a", .leftParen, .word "b", .compare .contains, .and, .word "c", .rightParen] := by
    decide +kernel
  have fails : parse "a (b=AND c)" = .error (.unexpectedToken 4 .and) := by decide +kernel
  exact ⟨tokens, ((parse_error_locates tokens).1 4 .and fails).2⟩

end Expression

end RecordSearch
