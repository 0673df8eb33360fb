import RecordSearch.Proofs.Recognition

/-!
# What a phrase sees of the tokens behind it

A word is the name of a field or a term according to what follows it, so a derivation depends on the
tokens behind its phrase.  It depends on little of them: whether they begin with a value, with a
comparison symbol, or with a comparison.  Exchanged for tokens that bind no more than they do, they
leave the phrase what it is, and the rules read it in the same way.
-/

namespace RecordSearch

namespace Grammar

/-- The first token can be the value of a field term. -/
def BeginsValue (tokens : List Token) : Prop := ∃ value tail, tokens = value :: tail ∧ value.isValue

/-- The first token is a comparison symbol. -/
def BeginsSymbol (tokens : List Token) : Prop :=
  ∃ comparison tail, tokens = .compare comparison :: tail

/-- A word before these tokens is the name of a field. -/
def BeginsComparison (tokens : List Token) : Prop :=
  ∃ comparison behind, Compares tokens comparison behind

/-- A phrase with `rest` behind it can have `other` behind it instead: what binds a word in `other`
does so in `rest`. -/
structure Admits (rest other : List Token) : Prop where
  value : BeginsValue other → BeginsValue rest
  symbol : BeginsSymbol other → BeginsSymbol rest
  comparison : BeginsComparison other → BeginsComparison rest

/-- The tokens bind no word before them. -/
def Detached (tokens : List Token) : Prop := ¬ BeginsValue tokens ∧ ¬ BeginsSymbol tokens

variable {category : Category} {nesting : Nat} {tokens rest other : List Token} {e : Expression}
  {token : Token}

@[simp]
theorem detached_nil : Detached [] := by
  simp [Detached, BeginsValue, BeginsSymbol]

/-- A token that is neither a value nor a symbol binds no word before it. -/
theorem detached_cons (notValue : token.isValue = false)
    (notSymbol : ∀ comparison, token ≠ .compare comparison) (rest : List Token) :
    Detached (token :: rest) := by
  constructor
  · rintro ⟨value, tail, tokens_eq, isValue⟩
    cases tokens_eq
    rw [notValue] at isValue
    cases isValue
  · rintro ⟨comparison, tail, tokens_eq⟩
    cases tokens_eq
    exact notSymbol comparison rfl

@[simp]
theorem detached_rightParen (rest : List Token) : Detached (.rightParen :: rest) :=
  detached_cons rfl (fun _ ↦ Token.noConfusion) rest

@[simp]
theorem detached_leftParen (rest : List Token) : Detached (.leftParen :: rest) :=
  detached_cons rfl (fun _ ↦ Token.noConfusion) rest

theorem Detached.admits (h : Detached other) (rest : List Token) : Admits rest other where
  value := fun begins ↦ absurd begins h.1
  symbol := fun begins ↦ absurd begins h.2
  comparison := by
    rintro ⟨comparison, behind, compares⟩
    cases compares with
    | symbol => exact absurd ⟨_, _, rfl⟩ h.2
    | word => exact absurd ⟨_, _, rfl, rfl⟩ h.1

/-- Behind a further token it matters only whether a value follows it, and not even that if the
token is none itself. -/
theorem admits_cons (h : token.isValue → BeginsValue other → BeginsValue rest) :
    Admits (token :: rest) (token :: other) where
  value := by
    rintro ⟨value, tail, tokens_eq, isValue⟩
    cases tokens_eq
    exact ⟨token, rest, rfl, isValue⟩
  symbol := by
    rintro ⟨comparison, tail, tokens_eq⟩
    cases tokens_eq
    exact ⟨comparison, rest, rfl⟩
  comparison := by
    rintro ⟨comparison, behind, compares⟩
    cases compares with
    | symbol => exact ⟨comparison, rest, .symbol comparison rest⟩
    | word named isValue =>
      obtain ⟨value, tail, rfl, isValue⟩ := h rfl ⟨_, _, rfl, isValue⟩
      exact ⟨comparison, _, .word named isValue⟩

theorem Admits.append (h : Admits rest other) (front : List Token) :
    Admits (front ++ rest) (front ++ other) := by
  induction front with
  | nil => exact h
  | cons token front ih => exact admits_cons fun _ ↦ ih.value

theorem admits_cons_of_not_value (notValue : token.isValue = false) (rest other : List Token) :
    Admits (token :: rest) (token :: other) :=
  admits_cons fun isValue ↦ absurd isValue (Bool.eq_false_iff.1 notValue)

/-- No word sees more than two tokens. -/
theorem admits_cons_cons (first second : Token) (rest other : List Token) :
    Admits (first :: second :: rest) (first :: second :: other) := by
  apply admits_cons
  rintro _ ⟨value, tail, tokens_eq, isValue⟩
  cases tokens_eq
  exact ⟨second, rest, rfl, isValue⟩

/-- The same first token, and nothing that binds more. -/
structure Resembles (rest other : List Token) : Prop extends Admits rest other where
  head?_eq : other.head? = rest.head?

/-- A comparison remains one with more tokens behind it. -/
theorem Compares.append {comparison : Comparison} {behind : List Token}
    (compares : Compares tokens comparison behind) (unseen : List Token) :
    Compares (tokens ++ unseen) comparison (behind ++ unseen) := by
  cases compares with
  | symbol => exact .symbol comparison _
  | word named isValue => exact .word named isValue

theorem resembles_cons_cons (first second : Token) (rest other : List Token) :
    Resembles (first :: second :: rest) (first :: second :: other) :=
  ⟨admits_cons_cons first second rest other, rfl⟩

theorem resembles_cons_of_not_value {token : Token} (notValue : token.isValue = false)
    (rest other : List Token) : Resembles (token :: rest) (token :: other) :=
  ⟨admits_cons_of_not_value notValue rest other, rfl⟩

theorem Resembles.append (h : Resembles rest other) (front : List Token) :
    Resembles (front ++ rest) (front ++ other) := by
  refine ⟨h.toAdmits.append front, ?_⟩
  rw [List.head?_append, List.head?_append, h.head?_eq]

/-- A phrase stays a phrase when what is behind it binds no more than before. -/
theorem Derives.replace (h : Derives category nesting tokens e rest) :
    ∃ consumed, tokens = consumed ++ rest ∧
      ∀ other, Admits rest other → Derives category nesting (consumed ++ other) e other := by
  induction h with
  | @term text rest free =>
    refine ⟨[.word text], rfl, fun other admits ↦ .term fun comparison behind compares ↦ ?_⟩
    obtain ⟨comparison, behind, compares⟩ := admits.comparison ⟨comparison, behind, compares⟩
    exact free comparison behind compares
  | @phrase text rest free =>
    refine ⟨[.phrase text], rfl, fun other admits ↦ .phrase fun comparison behind other_eq ↦ ?_⟩
    obtain ⟨comparison, behind, rest_eq⟩ := admits.symbol ⟨comparison, behind, other_eq⟩
    exact free comparison behind rest_eq
  | @field name text tokens rest comparison value isName compares holds =>
    cases compares with
    | symbol =>
      exact ⟨[.word name, .compare comparison, value], rfl, fun other _ ↦
        .field isName (.symbol comparison _) holds⟩
    | @word operator _ _ _ named isValue =>
      exact ⟨[.word name, .word operator, value], rfl, fun other _ ↦
        .field isName (.word named isValue) holds⟩
  | group _ ih =>
    obtain ⟨consumed, rfl, derives⟩ := ih
    refine ⟨.leftParen :: (consumed ++ [.rightParen]), by simp, fun other admits ↦ ?_⟩
    have inner := derives (.rightParen :: other) (admits.append [_])
    simpa using Derives.group inner
  | not _ ih =>
    obtain ⟨consumed, rfl, derives⟩ := ih
    exact ⟨.not :: consumed, rfl, fun other admits ↦ .not (derives other admits)⟩
  | atom _ ih =>
    obtain ⟨consumed, tokens_eq, derives⟩ := ih
    exact ⟨consumed, tokens_eq, fun other admits ↦ .atom (derives other admits)⟩
  | operand _ ih =>
    obtain ⟨consumed, tokens_eq, derives⟩ := ih
    exact ⟨consumed, tokens_eq, fun other admits ↦ .operand (derives other admits)⟩
  | conjunction _ ih =>
    obtain ⟨consumed, tokens_eq, derives⟩ := ih
    exact ⟨consumed, tokens_eq, fun other admits ↦ .conjunction (derives other admits)⟩
  | and _ _ ihBefore ihLast =>
    obtain ⟨before, rfl, derivesBefore⟩ := ihBefore
    obtain ⟨last, rfl, derivesLast⟩ := ihLast
    refine ⟨before ++ .and :: last, by simp, fun other admits ↦ ?_⟩
    have left := derivesBefore (.and :: (last ++ other)) ((admits.append last).append [_])
    simpa using Derives.and left (derivesLast other admits)
  | juxtaposed _ _ ihBefore ihLast =>
    obtain ⟨before, rfl, derivesBefore⟩ := ihBefore
    obtain ⟨last, rfl, derivesLast⟩ := ihLast
    refine ⟨before ++ last, by simp, fun other admits ↦ ?_⟩
    have left := derivesBefore (last ++ other) (admits.append last)
    simpa using Derives.juxtaposed left (derivesLast other admits)
  | or _ _ ihBefore ihLast =>
    obtain ⟨before, rfl, derivesBefore⟩ := ihBefore
    obtain ⟨last, rfl, derivesLast⟩ := ihLast
    refine ⟨before ++ .or :: last, by simp, fun other admits ↦ ?_⟩
    have left := derivesBefore (.or :: (last ++ other)) ((admits.append last).append [_])
    simpa using Derives.or left (derivesLast other admits)

end Grammar

namespace Rule

open Grammar

variable {category : Category} {depth : Nat} {rule : Rule} {start cursor stop : Cursor}
  {left e : Expression}

/-- Within the limits the result is the expected one. -/
theorem Verdict.eq_of_le {α : Type} {nesting terms : Nat} {expected result : Except Failure α}
    (h : Verdict depth nesting terms expected result) (nesting_le : nesting ≤ depth)
    (terms_le : terms ≤ maxTerms) : result = expected := by
  cases h with
  | accepted => rfl
  | tooDeep gt => exact absurd gt (Nat.not_lt.2 nesting_le)
  | tooManyTerms gt => exact absurd gt (Nat.not_lt.2 terms_le)

/-- A phrase between two places is read, where its category can end. -/
theorem Spans.ofCategory_eq (h : Spans category depth start e stop)
    (ends : Ends category stop.rest) :
    ofCategory depth category start = behind depth category e stop := by
  obtain ⟨nesting, nesting_le, derives⟩ := h.derives
  have terms_le := h.terms_le
  rw [h.stop_eq, Cursor.past_terms] at terms_le
  have read := (complete derives depth start rfl ends).eq_of_le nesting_le terms_le
  rwa [← h.stop_eq] at read

/-- The tokens behind a phrase can be exchanged. -/
theorem Spans.replace (h : Spans category depth start e stop) :
    ∃ consumed, start.rest = consumed ++ stop.rest ∧
      stop.index = start.index + consumed.length ∧
      ∀ other, Admits stop.rest other →
        Spans category depth { start with rest := consumed ++ other } e
          { stop with rest := other } := by
  obtain ⟨nesting, nesting_le, derives⟩ := h.derives
  obtain ⟨consumed, rest_eq, derives⟩ := derives.replace
  have index_eq := congrArg Cursor.index h.stop_eq
  have terms_eq := congrArg Cursor.terms h.stop_eq
  simp only [Cursor.past, rest_eq, List.length_append, Nat.add_sub_cancel] at index_eq terms_eq
  refine ⟨consumed, rest_eq, index_eq, fun other admits ↦ ?_⟩
  refine ⟨⟨nesting, nesting_le, derives other admits⟩, ?_, h.terms_le⟩
  simp only [Cursor.past, List.length_append, Nat.add_sub_cancel, index_eq, terms_eq]

theorem moreOperands_stops (sound : Sound .operand depth rule)
    (h : moreOperands rule left cursor = .ok (e, stop)) : EndsChain stop.rest := by
  fun_induction moreOperands rule left cursor with
  | case1 left cursor rest_eq =>
    cases h
    rw [rest_eq]
    exact endsChain_nil
  | case2 => cases h
  | case3 left cursor token tail rest_eq starts right next found shorter ih => exact ih h
  | case4 left cursor token tail rest_eq starts right next found notShorter =>
    have behind := (sound found).length_lt
    split at behind
    · simp only [Cursor.advance_rest, List.length_tail] at behind
      omega
    · exact absurd behind notShorter
  | case5 left cursor token tail rest_eq other =>
    cases h
    rw [not_or, Bool.not_eq_true] at other
    simpa [EndsChain, rest_eq] using other

theorem conjunction_stops (sound : Sound .operand depth rule)
    (h : conjunction rule start = .ok (e, stop)) : EndsChain stop.rest := by
  obtain ⟨⟨first, cursor⟩, _, more⟩ := bind_eq_ok h
  exact moreOperands_stops sound more

/-- The tokens cannot go on with a disjunction. -/
def EndsDisjunction (rest : List Token) : Prop := EndsChain rest ∧ ∀ tail, rest ≠ .or :: tail

theorem moreConjunctions_stops (sound : Sound .operand depth rule) (ends : EndsChain cursor.rest)
    (h : moreConjunctions rule left cursor = .ok (e, stop)) : EndsDisjunction stop.rest := by
  fun_induction moreConjunctions rule left cursor with
  | case1 => cases h
  | case2 left cursor tail rest_eq right next found shorter ih =>
    exact ih (conjunction_stops sound found) h
  | case3 left cursor tail rest_eq right next found notShorter =>
    have behind := (conjunction_sound sound found).length_lt
    simp only [Cursor.advance_rest, List.length_tail] at behind
    omega
  | case4 left cursor other =>
    cases h
    exact ⟨ends, other⟩

/-- What follows a disjunction that was read cannot continue it. -/
theorem disjunction_stops (sound : Sound .operand depth rule)
    (h : disjunction rule start = .ok (e, stop)) : EndsDisjunction stop.rest := by
  obtain ⟨⟨first, cursor⟩, found, more⟩ := bind_eq_ok h
  exact moreConjunctions_stops sound (conjunction_stops sound found) more

theorem isValue_of_startsOperand_eq_false {token : Token} (h : token.startsOperand = false) :
    token.isValue = false := by
  cases token with
  | word => cases h
  | phrase => cases h
  | _ => rfl

theorem EndsDisjunction.isValue_eq_false {token : Token} {tail : List Token}
    (h : EndsDisjunction (token :: tail)) : token.isValue = false :=
  isValue_of_startsOperand_eq_false (h.1 token rfl).2

theorem EndsDisjunction.replace {token : Token} {tail : List Token}
    (h : EndsDisjunction (token :: tail)) (other : List Token) :
    EndsDisjunction (token :: other) := by
  refine ⟨h.1, fun other' tokens_eq ↦ ?_⟩
  cases tokens_eq
  exact h.2 tail rfl

theorem Spans.disjunction_eq (h : Spans .disjunction depth start e stop)
    (ends : EndsDisjunction stop.rest) : disjunction (operand depth) start = .ok (e, stop) := by
  calc
    disjunction (operand depth) start = moreConjunctions (operand depth) e stop :=
      h.ofCategory_eq ends.1
    _ = .ok (e, stop) := moreConjunctions_eq_ok ends.2

end Rule

end RecordSearch
