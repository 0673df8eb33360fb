import RecordSearch.Proofs.Recognition
import RecordSearch.Proofs.Scanning

/-!
# Reading what was written

The written form of an expression is cut into the tokens of the expression, and these derive the
expression again with as much nesting as it has operators above each other.  So an expression is
read back unless it breaks a limit or names a field that cannot be typed.
-/

namespace RecordSearch.Token

open Unicode (lowercase BreaksWord)

/-- ASCII letters are among those that have a lower case. -/
theorem toLower_of_settled {c : Char} (h : Unicode.Settled c) : c.toLower = c := by
  unfold Char.toLower
  split
  · rename_i upper
    have upperLetters : ∀ code ∈ List.range' 65 26,
        Unicode.lowercaseLetter (Char.ofNat code) ≠ Char.ofNat code := by decide +kernel
    have member : c.toNat ∈ List.range' 65 26 := by
      obtain ⟨ge, le⟩ := upper
      simp only [UInt32.le_iff_toNat_le] at ge le
      simp only [List.mem_range'_1]
      exact ⟨ge, Nat.lt_succ_of_le le⟩
    have := upperLetters c.toNat member
    rw [Char.ofNat_toNat] at this
    exact absurd h.lowercaseLetter_eq this
  · rfl

theorem sameLetters_lowercase {typed keyword : String}
    (lower : keyword.toList.map Char.toLower = keyword.toList)
    (h : Text.sameLetters (lowercase typed) keyword) : lowercase typed = keyword := by
  rw [Text.sameLetters, beq_iff_eq, lower] at h
  have same : (lowercase typed).toList.map Char.toLower = (lowercase typed).toList := by
    calc
      (lowercase typed).toList.map Char.toLower = (lowercase typed).toList.map id :=
        List.map_congr_left fun c member ↦
          toLower_of_settled (Unicode.settled_of_mem_lowercase member)
      _ = (lowercase typed).toList := List.map_id _
  rw [same] at h
  exact String.toList_inj.1 h

/-- The words that are not names, although they look like some. -/
theorem ofWord_lowercase {typed : String} (h : lowercase typed ∉ ["and", "or", "not"]) :
    ofWord (lowercase typed) = word (lowercase typed) := by
  simp only [List.mem_cons, List.not_mem_nil, or_false, not_or] at h
  obtain ⟨notAnd, notOr, notNot⟩ := h
  rw [ofWord, if_neg fun same ↦ notAnd (sameLetters_lowercase (by decide) same),
    if_neg fun same ↦ notOr (sameLetters_lowercase (by decide) same),
    if_neg fun same ↦ notNot (sameLetters_lowercase (by decide) same)]

end RecordSearch.Token

namespace RecordSearch.Expression

open Grammar
open Token (CutsInto isRun_of_isUnbroken ofWord)
open Unicode (isBlank lowercase BreaksWord)

def fields : Expression → List Field
  | term _ => []
  | field target _ _ => [target]
  | not inner => inner.fields
  | and left right => left.fields ++ right.fields
  | or left right => left.fields ++ right.fields

/-- The token that writes a term or a value. -/
def valueToken (value : String) : Token :=
  if needsQuotes value then .phrase value else .word value

def tokens : Expression → List Token
  | term text => [valueToken text]
  | field target comparison value => [ofWord target.name, .compare comparison, valueToken value]
  | not inner => .not :: inner.tokens
  | and left right => .leftParen :: (left.tokens ++ .and :: (right.tokens ++ [.rightParen]))
  | or left right => .leftParen :: (left.tokens ++ .or :: (right.tokens ++ [.rightParen]))

/-- What stands behind a part of a written form. -/
def EndsPiece (rest : List Char) : Prop := ∀ c tail, rest = c :: tail → c = ' ' ∨ c = ')'

theorem endsPiece_nil : EndsPiece [] := by
  intro c tail rest_eq
  cases rest_eq

theorem endsPiece_space (rest : List Char) : EndsPiece (' ' :: rest) := by
  intro c tail rest_eq
  cases rest_eq
  exact .inl rfl

theorem endsPiece_rightParen (rest : List Char) : EndsPiece (')' :: rest) := by
  intro c tail rest_eq
  cases rest_eq
  exact .inr rfl

theorem EndsPiece.endsWord {rest : List Char} (h : EndsPiece rest) (c : Char) (tail : List Char)
    (rest_eq : rest = c :: tail) : Token.endsWord c tail = true := by
  rcases h c tail rest_eq with rfl | rfl
  · rfl
  · rfl

/-- A value that needs no quotes is one unbroken word, and not a keyword. -/
theorem isUnbroken_of_not_needsQuotes {value : String} (h : needsQuotes value = false) :
    Field.IsUnbroken value ∧ ofWord value = .word value := by
  simp only [needsQuotes, Bool.or_eq_false_iff, List.any_eq_false, List.mem_cons,
    List.not_mem_nil, or_false, forall_eq_or_imp, forall_eq, String.isEmpty_eq_false_iff] at h
  obtain ⟨⟨nonempty, notAnd, notOr, notNot⟩, characters⟩ := h
  refine ⟨⟨?_, fun c member breaks ↦ characters c member ?_⟩, ?_⟩
  · rwa [ne_eq, String.toList_eq_nil_iff]
  · simp only [BreaksWord, List.mem_cons, List.not_mem_nil, or_false] at breaks
    rcases breaks with blank | rfl | rfl | rfl | rfl | rfl
    · rw [blank, Bool.true_or]
    all_goals decide
  · rw [ofWord, if_neg notAnd, if_neg notOr, if_neg notNot]

/-- A written value is cut into its token. -/
theorem cutsInto_value (value : String) {rest : List Char} (ends : EndsPiece rest) :
    CutsInto (writeValue value).toList [valueToken value] rest := by
  unfold writeValue valueToken
  split
  · have written : ("\"" ++ String.ofList (value.toList.flatMap escape) ++ "\"").toList =
        '"' :: (value.toList.flatMap escape ++ ['"']) := by
      simp only [String.toList_append, String.toList_ofList]
      rfl
    rw [written]
    exact Token.cutsInto_phrase value rest
  · rename_i plain
    obtain ⟨unbroken, word_eq⟩ := isUnbroken_of_not_needsQuotes (Bool.eq_false_iff.2 plain)
    rw [← word_eq]
    exact Token.cutsInto_word unbroken.1 (isRun_of_isUnbroken unbroken ends.endsWord)

theorem cutsInto_name {name : String} (unbroken : Field.IsUnbroken name) (comparison : Comparison)
    (rest : List Char) :
    CutsInto name.toList [ofWord name] (comparison.symbol.toList ++ rest) := by
  apply Token.cutsInto_word unbroken.1
  apply isRun_of_isUnbroken unbroken
  intro c tail symbol_eq
  cases comparison with
  | contains =>
    cases symbol_eq
    rfl
  | exact =>
    cases symbol_eq
    rfl
  | excludes =>
    cases symbol_eq
    rfl

theorem head?_writeValue_ne (value : String) (rest : List Char) :
    ((writeValue value).toList ++ rest).head? ≠ some '=' := by
  unfold writeValue
  split
  · simp
  · rename_i plain
    obtain ⟨⟨nonempty, unbroken⟩, _⟩ :=
      isUnbroken_of_not_needsQuotes (Bool.eq_false_iff.2 plain)
    obtain ⟨c, run, value_eq⟩ := List.exists_cons_of_ne_nil nonempty
    rw [value_eq, List.cons_append, List.head?_cons, ne_eq, Option.some_inj]
    rintro rfl
    exact unbroken '=' (by simp [value_eq]) (.inr (by decide))

theorem cutsInto_keyword (keyword : String) (isName : Field.isName keyword) (rest : List Char) :
    CutsInto (keyword.toList ++ [' ']) [ofWord keyword] rest := by
  have unbroken := Field.isUnbroken_of_isName isName
  have word := Token.cutsInto_word unbroken.1
    (isRun_of_isUnbroken unbroken (endsPiece_space rest).endsWord)
  exact word.append (Token.cutsInto_blank (by decide) rest)

/-- Two parts with a keyword between them, in parentheses. -/
theorem cutsInto_group (keyword : String) (isName : Field.isName keyword) {left right : List Char}
    {before behind : List Token} (first : ∀ {rest}, EndsPiece rest → CutsInto left before rest)
    (second : ∀ {rest}, EndsPiece rest → CutsInto right behind rest) (rest : List Char) :
    CutsInto ('(' :: (left ++ ' ' :: (keyword.toList ++ ' ' :: (right ++ [')']))))
      (.leftParen :: (before ++ ofWord keyword :: (behind ++ [.rightParen]))) rest := by
  have last := (second (endsPiece_rightParen rest)).append (Token.cutsInto_rightParen rest)
  have middle := (cutsInto_keyword keyword isName (right ++ [')'] ++ rest)).append last
  have space := (Token.cutsInto_blank (c := ' ') (by decide) _).append middle
  have all := (Token.cutsInto_leftParen _).append ((first (endsPiece_space _)).append space)
  simpa using all

/-- The written form is cut into the tokens of the expression. -/
theorem cutsInto_write {e : Expression}
    (unbroken : ∀ target ∈ e.fields, Field.IsUnbroken target.name) {rest : List Char}
    (ends : EndsPiece rest) : CutsInto e.write.toList e.tokens rest := by
  induction e generalizing rest with
  | term text => exact cutsInto_value text ends
  | field target comparison value =>
    have name := cutsInto_name (unbroken target (List.mem_singleton_self _)) comparison
      ((writeValue value).toList ++ rest)
    have symbol := Token.cutsInto_symbol comparison fun _ ↦ head?_writeValue_ne value rest
    have all := (name.append symbol).append (cutsInto_value value ends)
    simpa [write, tokens] using all
  | not inner ih =>
    have keyword := cutsInto_keyword "NOT" (by decide +kernel)
      (inner.write.toList ++ rest)
    have all := keyword.append (ih unbroken ends)
    rw [show ofWord "NOT" = .not by decide] at all
    simpa [write, tokens] using all
  | and left right ihLeft ihRight =>
    simp only [fields, List.mem_append, or_imp, forall_and] at unbroken
    have all := cutsInto_group "AND" (by decide +kernel) (ihLeft unbroken.1)
      (ihRight unbroken.2) rest
    rw [show ofWord "AND" = .and by decide] at all
    simpa [write, tokens] using all
  | or left right ihLeft ihRight =>
    simp only [fields, List.mem_append, or_imp, forall_and] at unbroken
    have all := cutsInto_group "OR" (by decide +kernel) (ihLeft unbroken.1)
      (ihRight unbroken.2) rest
    rw [show ofWord "OR" = .or by decide] at all
    simpa [write, tokens] using all

/-- A written expression has the tokens of the expression. -/
theorem tokenize_write {e : Expression}
    (unbroken : ∀ target ∈ e.fields, Field.IsUnbroken target.name) :
    Token.tokenize e.write = .ok e.tokens :=
  (cutsInto_write unbroken endsPiece_nil).tokenize

/-! ## The tokens derive the expression -/

/-- What stands behind a part of a written form, in tokens. -/
def EndsPart (rest : List Token) : Prop := ∀ token ∈ rest.head?, token ∈ [.and, .or, .rightParen]

theorem endsPart_nil : EndsPart [] := by
  intro token member
  cases member

theorem endsPart_cons (token : Token) (rest : List Token)
    (h : token ∈ [.and, .or, .rightParen]) : EndsPart (token :: rest) := by
  intro first member
  cases member
  exact h

theorem EndsPart.not_compares {rest : List Token} (h : EndsPart rest) (comparison : Comparison)
    (behind : List Token) : ¬ Compares rest comparison behind := by
  intro compares
  cases compares with
  | symbol => simpa using h _ rfl
  | word => simpa using h _ rfl

theorem derives_value (value : String) {rest : List Token} (ends : EndsPart rest) :
    Derives .atom 0 (valueToken value :: rest) (.term value) rest := by
  unfold valueToken
  split
  · apply Derives.phrase
    rintro comparison behind rfl
    exact ends.not_compares comparison behind (.symbol comparison behind)
  · exact .term ends.not_compares

/-- The field can be typed: its name is a word, and it names the field. -/
structure IsTyped (target : Field) : Prop where
  isName : Field.isName target.name
  ofWord_name : ofWord target.name = .word target.name
  ofName_name : Field.ofName target.name = target

/-- A name, a symbol and a value write the comparison in the field. -/
theorem derives_field {target : Field} (typed : IsTyped target) (comparison : Comparison)
    (value : String) (rest : List Token) :
    Derives .atom 0 (ofWord target.name :: .compare comparison :: valueToken value :: rest)
      (.field target comparison value) rest := by
  have holds : valueToken value = .word value ∨ valueToken value = .phrase value := by
    unfold valueToken
    split
    · exact .inr rfl
    · exact .inl rfl
  have derives := Derives.field typed.isName (.symbol comparison (valueToken value :: rest)) holds
  rwa [typed.ofName_name, ← typed.ofWord_name] at derives

/-- The tokens of an expression derive it, and every operator adds one level of nesting. -/
theorem derives_tokens {e : Expression} (typed : ∀ target ∈ e.fields, IsTyped target)
    {rest : List Token} (ends : EndsPart rest) :
    Derives .operand e.height (e.tokens ++ rest) e rest := by
  induction e generalizing rest with
  | term text => exact .atom (derives_value text ends)
  | field target comparison value =>
    exact .atom (derives_field (typed target (List.mem_singleton_self _)) comparison value rest)
  | not inner ih => exact .not (ih typed ends)
  | and left right ihLeft ihRight =>
    simp only [fields, List.mem_append, or_imp, forall_and] at typed
    have first := ihLeft typed.1
      (endsPart_cons .and (right.tokens ++ .rightParen :: rest) (by simp))
    have second := ihRight typed.2 (endsPart_cons .rightParen rest (by simp))
    have group := Derives.group (.conjunction (.and (.operand first) second))
    simpa [tokens, height] using Derives.atom group
  | or left right ihLeft ihRight =>
    simp only [fields, List.mem_append, or_imp, forall_and] at typed
    have first := ihLeft typed.1
      (endsPart_cons .or (right.tokens ++ .rightParen :: rest) (by simp))
    have second := ihRight typed.2 (endsPart_cons .rightParen rest (by simp))
    have group := Derives.group (.or (.conjunction (.operand first)) (.operand second))
    simpa [tokens, height] using Derives.atom group

/-! ## Fields of what is read -/

def isSymbol : Token → Bool
  | .compare _ => true
  | _ => false

/-- A comparison symbol stands behind the name of a field. -/
def SymbolsFollowNames (tokens : List Token) : Prop :=
  ∀ before comparison after, tokens = before ++ .compare comparison :: after →
    ∃ front name, before = front ++ [.word name] ∧ Field.isName name

theorem SymbolsFollowNames.append {first second : List Token} (here : SymbolsFollowNames first)
    (there : SymbolsFollowNames second) : SymbolsFollowNames (first ++ second) := by
  intro before comparison after tokens_eq
  rcases List.append_eq_append_iff.1 tokens_eq with
    ⟨start, rfl, second_eq⟩ | ⟨tail, first_eq, tail_eq⟩
  · obtain ⟨front, name, rfl, isName⟩ := there start comparison after second_eq
    exact ⟨first ++ front, name, by rw [List.append_assoc], isName⟩
  · cases tail with
    | nil =>
      obtain ⟨front, name, nothing, _⟩ := there [] comparison after tail_eq.symm
      simp at nothing
    | cons token tail =>
      cases tail_eq
      exact here before comparison tail first_eq

theorem symbolsFollowNames_nil : SymbolsFollowNames [] := by
  intro before comparison after tokens_eq
  simp at tokens_eq

theorem SymbolsFollowNames.cons {token : Token} {tokens : List Token}
    (h : isSymbol token = false) (behind : SymbolsFollowNames tokens) :
    SymbolsFollowNames (token :: tokens) := by
  have here : SymbolsFollowNames [token] := by
    intro before comparison after tokens_eq
    cases before with
    | nil =>
      cases tokens_eq
      cases h
    | cons first before => simp at tokens_eq
  exact here.append behind

theorem symbolsFollowNames_field {name : String} (isName : Field.isName name)
    (comparison : Comparison) : SymbolsFollowNames [.word name, .compare comparison] := by
  intro before other after tokens_eq
  cases before with
  | nil => cases tokens_eq
  | cons first before =>
    cases before with
    | nil =>
      cases tokens_eq
      exact ⟨[], name, rfl, isName⟩
    | cons second before => simp at tokens_eq

/-- In front of the symbols of a comparison stands a name. -/
theorem symbolsFollowNames_compares {name : String} {tokens behind : List Token}
    {comparison : Comparison} (isName : Field.isName name)
    (compares : Compares tokens comparison behind) :
    ∃ consumed, .word name :: tokens = consumed ++ behind ∧ SymbolsFollowNames consumed := by
  cases compares with
  | symbol => exact ⟨_, rfl, symbolsFollowNames_field isName comparison⟩
  | @word text _ value behind _ _ =>
    have follow : SymbolsFollowNames [.word text] := symbolsFollowNames_nil.cons rfl
    exact ⟨[.word name, .word text], rfl, follow.cons rfl⟩

/-- In the tokens of a phrase every comparison symbol stands behind a name. -/
theorem exists_consumed {category : Category} {nesting : Nat} {tokens rest : List Token}
    {e : Expression} (h : Derives category nesting tokens e rest) :
    ∃ consumed, tokens = consumed ++ rest ∧ SymbolsFollowNames consumed := by
  induction h with
  | @term text _ _ => exact ⟨[.word text], rfl, symbolsFollowNames_nil.cons rfl⟩
  | @phrase text _ _ => exact ⟨[.phrase text], rfl, symbolsFollowNames_nil.cons rfl⟩
  | @field _ _ _ _ _ value isName compares holds =>
    obtain ⟨consumed, tokens_eq, follow⟩ := symbolsFollowNames_compares isName compares
    refine ⟨consumed ++ [value], by rw [tokens_eq, List.append_assoc]; rfl, follow.append ?_⟩
    rcases holds with rfl | rfl
    · exact symbolsFollowNames_nil.cons rfl
    · exact symbolsFollowNames_nil.cons rfl
  | group _ ih =>
    obtain ⟨consumed, rfl, follow⟩ := ih
    refine ⟨.leftParen :: (consumed ++ [.rightParen]), by simp, SymbolsFollowNames.cons rfl ?_⟩
    exact follow.append (symbolsFollowNames_nil.cons rfl)
  | not _ ih =>
    obtain ⟨consumed, rfl, follow⟩ := ih
    exact ⟨.not :: consumed, rfl, follow.cons rfl⟩
  | atom _ ih => exact ih
  | operand _ ih => exact ih
  | conjunction _ ih => exact ih
  | and _ _ ihBefore ihLast =>
    obtain ⟨before, rfl, followBefore⟩ := ihBefore
    obtain ⟨last, rfl, followLast⟩ := ihLast
    exact ⟨before ++ .and :: last, by simp, followBefore.append (followLast.cons rfl)⟩
  | juxtaposed _ _ ihBefore ihLast =>
    obtain ⟨before, rfl, followBefore⟩ := ihBefore
    obtain ⟨last, rfl, followLast⟩ := ihLast
    exact ⟨before ++ last, by simp, followBefore.append followLast⟩
  | or _ _ ihBefore ihLast =>
    obtain ⟨before, rfl, followBefore⟩ := ihBefore
    obtain ⟨last, rfl, followLast⟩ := ihLast
    exact ⟨before ++ .or :: last, by simp, followBefore.append (followLast.cons rfl)⟩

theorem subset_of_derives {category : Category} {nesting : Nat} {tokens rest : List Token}
    {e : Expression} (h : Derives category nesting tokens e rest) : rest ⊆ tokens := by
  obtain ⟨consumed, rfl, _⟩ := exists_consumed h
  exact List.subset_append_right consumed rest

/-- The fields of a phrase are typed as names in it. -/
theorem mem_fields_of_derives {category : Category} {nesting : Nat} {tokens rest : List Token}
    {e : Expression} (h : Derives category nesting tokens e rest) :
    ∀ target ∈ e.fields, ∃ typed, .word typed ∈ tokens ∧ Field.isName typed ∧
      target = Field.ofName typed := by
  induction h with
  | term => simp [fields]
  | phrase => simp [fields]
  | field isName =>
    intro target member
    exact ⟨_, List.mem_cons_self, isName, List.mem_singleton.1 member⟩
  | group _ ih =>
    intro target member
    obtain ⟨typed, inside, named⟩ := ih target member
    exact ⟨typed, List.mem_cons_of_mem _ inside, named⟩
  | not _ ih =>
    intro target member
    obtain ⟨typed, inside, named⟩ := ih target member
    exact ⟨typed, List.mem_cons_of_mem _ inside, named⟩
  | atom _ ih => exact ih
  | operand _ ih => exact ih
  | conjunction _ ih => exact ih
  | and first _ before last =>
    intro target member
    rcases List.mem_append.1 member with left | right
    · exact before target left
    · obtain ⟨typed, inside, named⟩ := last target right
      exact ⟨typed, subset_of_derives first (List.mem_cons_of_mem _ inside), named⟩
  | juxtaposed first _ before last =>
    intro target member
    rcases List.mem_append.1 member with left | right
    · exact before target left
    · obtain ⟨typed, inside, named⟩ := last target right
      exact ⟨typed, subset_of_derives first inside, named⟩
  | or first _ before last =>
    intro target member
    rcases List.mem_append.1 member with left | right
    · exact before target left
    · obtain ⟨typed, inside, named⟩ := last target right
      exact ⟨typed, subset_of_derives first (List.mem_cons_of_mem _ inside), named⟩

/-- The fields of what is read were typed as names. -/
theorem exists_typed_of_parse {text : String} {e : Expression} (h : parse text = .ok e) :
    ∀ target ∈ e.fields, ∃ typed, Field.isName typed ∧ target = Field.ofName typed := by
  obtain ⟨tokens, _, read⟩ := Rule.bind_eq_ok h
  obtain ⟨⟨_, _, derives⟩, _⟩ := writes_of_ofTokens read
  intro target member
  obtain ⟨typed, _, named⟩ := mem_fields_of_derives derives target member
  exact ⟨typed, named⟩

theorem infix_group (left right : List Token) (keyword : Token) :
    left <:+: .leftParen :: (left ++ keyword :: (right ++ [.rightParen])) ∧
      right <:+: .leftParen :: (left ++ keyword :: (right ++ [.rightParen])) :=
  ⟨⟨[.leftParen], keyword :: (right ++ [.rightParen]), rfl⟩,
    ⟨.leftParen :: (left ++ [keyword]), [.rightParen], by simp⟩⟩

/-- Every field of an expression stands among its tokens, with a symbol behind it. -/
theorem infix_tokens_of_mem_fields {e : Expression} {target : Field} (h : target ∈ e.fields) :
    ∃ comparison, [ofWord target.name, .compare comparison] <:+: e.tokens := by
  induction e with
  | term => cases h
  | field target' comparison value =>
    cases List.mem_singleton.1 h
    exact ⟨comparison, [], [valueToken value], rfl⟩
  | not inner ih =>
    obtain ⟨comparison, inside⟩ := ih h
    exact ⟨comparison, inside.trans (List.infix_cons List.infix_rfl)⟩
  | and left right ihLeft ihRight =>
    have group := infix_group left.tokens right.tokens .and
    rcases List.mem_append.1 h with here | there
    · exact (ihLeft here).imp fun _ inside ↦ inside.trans group.1
    · exact (ihRight there).imp fun _ inside ↦ inside.trans group.2
  | or left right ihLeft ihRight =>
    have group := infix_group left.tokens right.tokens .or
    rcases List.mem_append.1 h with here | there
    · exact (ihLeft here).imp fun _ inside ↦ inside.trans group.1
    · exact (ihRight there).imp fun _ inside ↦ inside.trans group.2

/-- If the tokens of an expression are a phrase at all, its fields are written as words. -/
theorem exists_word_of_mem_fields {e e' : Expression} {nesting : Nat} {category : Category}
    (h : Derives category nesting e.tokens e' []) {target : Field} (member : target ∈ e.fields) :
    ∃ name, ofWord target.name = .word name ∧ Field.isName name := by
  obtain ⟨consumed, tokens_eq, follow⟩ := exists_consumed h
  rw [List.append_nil] at tokens_eq
  obtain ⟨comparison, before, after, inside⟩ := infix_tokens_of_mem_fields member
  have split : consumed = (before ++ [ofWord target.name]) ++ .compare comparison :: after := by
    rw [← tokens_eq, ← inside]
    simp
  obtain ⟨front, name, before_eq, isName⟩ := follow _ _ _ split
  exact ⟨name, List.singleton_inj.1 (List.append_inj_right' before_eq rfl), isName⟩

theorem isName_of_ofWord_eq {target name : String} (h : ofWord target = .word name)
    (isName : Field.isName name) : Field.isName target ∧ target ∉ ["and", "or", "not"] := by
  constructor
  · rwa [Token.eq_of_ofWord h]
  · intro member
    simp only [List.mem_cons, List.not_mem_nil, or_false] at member
    rcases member with rfl | rfl | rfl
    · rw [show ofWord "and" = .and by decide] at h
      cases h
    · rw [show ofWord "or" = .or by decide] at h
      cases h
    · rw [show ofWord "not" = .not by decide] at h
      cases h

/-- If the tokens of an expression are a phrase at all, the names of its fields can be typed. -/
theorem isName_of_derives {e e' : Expression} {nesting : Nat} {category : Category}
    (h : Derives category nesting e.tokens e' []) :
    ∀ target ∈ e.fields, Field.isName target.name ∧ target.name ∉ ["and", "or", "not"] := by
  intro target member
  obtain ⟨name, word_eq, isName⟩ := exists_word_of_mem_fields h member
  exact isName_of_ofWord_eq word_eq isName

theorem isTyped_of_isName {e : Expression}
    (named : ∀ target ∈ e.fields, ∃ typed, target = Field.ofName typed)
    (names : ∀ target ∈ e.fields, Field.isName target.name ∧ target.name ∉ ["and", "or", "not"]) :
    ∀ target ∈ e.fields, IsTyped target := by
  intro target member
  obtain ⟨isName, free⟩ := names target member
  obtain ⟨typed, rfl⟩ := named target member
  refine ⟨isName, ?_, ?_⟩
  · rw [Field.name_ofName] at free ⊢
    exact Token.ofWord_lowercase free
  · rw [Field.name_ofName, Field.ofName_lowercase]

/-- With nothing behind them, the tokens of an expression are a whole query. -/
theorem derives_all_tokens {e : Expression} (typed : ∀ target ∈ e.fields, IsTyped target) :
    Derives .disjunction e.height e.tokens e [] := by
  have derives := derives_tokens typed endsPart_nil
  rw [List.append_nil] at derives
  exact .conjunction (.operand derives)

/-- An expression is read back from its written form if and only if it respects the limits and all
its fields have names that can be typed. -/
theorem parse_write_eq_ok_iff {e : Expression}
    (named : ∀ target ∈ e.fields, ∃ typed, target = Field.ofName typed) :
    parse e.write = .ok e ↔
      e.height ≤ maxDepth ∧ e.leaves ≤ maxTerms ∧
        ∀ target ∈ e.fields, Field.isName target.name ∧ target.name ∉ ["and", "or", "not"] := by
  constructor
  · intro h
    have unbroken : ∀ target ∈ e.fields, Field.IsUnbroken target.name := by
      intro target member
      obtain ⟨typed, isName, rfl⟩ := exists_typed_of_parse h target member
      rw [Field.name_ofName]
      exact Field.isUnbroken_lowercase isName
    rw [parse, tokenize_write unbroken] at h
    have read : ofTokens e.tokens = .ok e := h
    obtain ⟨⟨nesting, _, derives⟩, _⟩ := writes_of_ofTokens read
    have names := isName_of_derives derives
    have verdict := ofTokens_verdict (derives_all_tokens (isTyped_of_isName named names))
    rw [read] at verdict
    obtain ⟨height_le, leaves_le⟩ := verdict.le_of_ok
    exact ⟨height_le, leaves_le, names⟩
  · rintro ⟨height_le, leaves_le, names⟩
    have unbroken : ∀ target ∈ e.fields, Field.IsUnbroken target.name := fun target member ↦
      Field.isUnbroken_of_isName (names target member).1
    have writes : Writes e.tokens e :=
      ⟨⟨e.height, height_le, derives_all_tokens (isTyped_of_isName named names)⟩, leaves_le⟩
    rw [parse, tokenize_write unbroken]
    exact ofTokens_eq_ok_iff.2 writes

/-- A value with a quote in it, compared with a field under `NOT`. -/
theorem parse_write_not_year :
    parse (not (field (.named "year") .exact "a \" (OR")).write =
      .ok (not (field (.named "year") .exact "a \" (OR")) := by
  apply (parse_write_eq_ok_iff (e := not (field (.named "year") .exact "a \" (OR")) ?_).2
  · decide +kernel
  · intro target member
    cases List.mem_singleton.1 member
    exact ⟨"Year", by decide +kernel⟩

end RecordSearch.Expression
