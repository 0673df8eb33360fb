import RecordSearch.Proofs.Scanning

/-!
# Spacing

Tokens can be written one after the other with any white space between them, or with none where
they cannot run together.  However a list of tokens is spaced, it is read back: a token asks little
of the text behind it, and the start of the next token, or a blank, grants it.
-/

namespace RecordSearch.Token

open Unicode (isBlank BreaksWord)

def keyword? : Token → Option String
  | and => some "and"
  | or => some "or"
  | not => some "not"
  | _ => none

/-- A word that can be written as it is. -/
structure IsWord (word : String) : Prop where
  nonempty : word.toList ≠ []
  plain : ∀ c ∈ word.toList, isBlank c = false ∧ c ∉ ['(', ')', '"', '=']
  notKeyword : ∀ keyword ∈ ["and", "or", "not"], Text.sameLetters word keyword = false

instance (word : String) : Decidable (IsWord word) :=
  decidable_of_iff (word.toList ≠ [] ∧
      word.toList.all (fun c ↦ isBlank c == false && decide (c ∉ ['(', ')', '"', '='])) ∧
      ∀ keyword ∈ ["and", "or", "not"], Text.sameLetters word keyword = false) <| by
    simp only [List.all_eq_true, Bool.and_eq_true, beq_iff_eq, decide_eq_true_eq]
    exact ⟨fun ⟨nonempty, plain, notKeyword⟩ ↦ ⟨nonempty, plain, notKeyword⟩,
      fun h ↦ ⟨h.nonempty, h.plain, h.notKeyword⟩⟩

/-- The ways of writing a token. -/
inductive Spells : Token → List Char → Prop
  | leftParen : Spells leftParen ['(']
  | rightParen : Spells rightParen [')']
  | compare (comparison : Comparison) : Spells (compare comparison) comparison.symbol.toList
  /-- The letters of a keyword can have either case. -/
  | keyword {token : Token} {typed letters : String} (named : token.keyword? = some letters)
      (same : Text.sameLetters typed letters) : Spells token typed.toList
  | word {typed : String} (h : IsWord typed) : Spells (word typed) typed.toList
  | phrase (content : String) :
      Spells (phrase content) ('"' :: (content.toList.flatMap Expression.escape ++ ['"']))

/-- The token is written as a run of characters that ends where the text allows it. -/
def isRun : Token → Bool
  | and | or | not | word _ => true
  | leftParen | rightParen | compare _ | phrase _ => false

/-- Tokens that would be read as something else without white space between them. -/
inductive RunTogether : Token → Token → Prop
  | runs {token next : Token} (before : token.isRun) (behind : next.isRun) : RunTogether token next
  | symbols {comparison : Comparison} (h : comparison ≠ .excludes) :
      RunTogether (compare .contains) (compare comparison)
  | bang {typed : String} {comparison : Comparison} (last : typed.toList.getLast? = some '!')
      (h : comparison ≠ .excludes) : RunTogether (word typed) (compare comparison)

/-- The ways of writing tokens one after the other.  Any white space can follow a token, and some
has to if it would otherwise run together with the next one. -/
inductive SpellsAll : List Token → List Char → Prop
  | nil : SpellsAll [] []
  | cons {token : Token} {tokens : List Token} {written space text : List Char}
      (here : Spells token written) (blank : ∀ c ∈ space, isBlank c)
      (apart : ∀ next ∈ tokens.head?, RunTogether token next → space ≠ [])
      (there : SpellsAll tokens text) : SpellsAll (token :: tokens) (written ++ (space ++ text))

section Runs

variable {token : Token} {typed letters : String}

theorem toLower_of_mem_breakCodes :
    ∀ code ∈ Unicode.breakCodes, (Char.ofNat code).toLower = Char.ofNat code := by
  decide +kernel

/-- The letters of a keyword are those of a name, in lower case. -/
theorem keyword_letters (named : token.keyword? = some letters) : token.isRun ∧
    Field.isName letters ∧ letters.toList.map Char.toLower = letters.toList := by
  cases token with
  | and | or | not =>
    cases named
    exact ⟨rfl, by decide +kernel, by decide⟩
  | leftParen | rightParen | compare | word | phrase => cases named

theorem isUnbroken_of_keyword (named : token.keyword? = some letters)
    (same : Text.sameLetters typed letters) : Field.IsUnbroken typed := by
  obtain ⟨_, isName, lower⟩ := keyword_letters named
  have unbroken := Field.isUnbroken_of_isName isName
  rw [Text.sameLetters, beq_iff_eq, lower] at same
  constructor
  · intro empty
    rw [empty] at same
    exact unbroken.1 same.symm
  · intro c member breaks
    have lower_eq := toLower_of_mem_breakCodes c.toNat breaks.mem_breakCodes
    rw [Char.ofNat_toNat] at lower_eq
    have kept : c ∈ letters.toList := by
      rw [← same, ← lower_eq]
      exact List.mem_map_of_mem member
    exact unbroken.2 c kept breaks

/-- Only the letters of a keyword matter, not their case. -/
theorem ofWord_eq_of_sameLetters (named : token.keyword? = some letters)
    (same : Text.sameLetters typed letters) : ofWord typed = token := by
  have letters_eq : typed.toList.map Char.toLower = letters.toList.map Char.toLower :=
    beq_iff_eq.1 same
  unfold ofWord Text.sameLetters
  rw [letters_eq]
  cases token with
  | and | or | not =>
    cases named
    rfl
  | leftParen | rightParen | compare | word | phrase => cases named

theorem IsWord.ofWord_eq (h : IsWord typed) : ofWord typed = word typed := by
  have notKeyword := h.notKeyword
  simp only [List.mem_cons, List.not_mem_nil, or_false, forall_eq_or_imp, forall_eq] at notKeyword
  obtain ⟨notAnd, notOr, notNot⟩ := notKeyword
  rw [ofWord, notAnd, notOr, notNot]
  rfl

theorem IsWord.unbroken (h : IsWord typed) : ∀ c ∈ typed.toList, BreaksWord c → c = '!' := by
  intro c member breaks
  obtain ⟨visible, plain⟩ := h.plain c member
  rcases breaks with blank | sign
  · rw [visible] at blank
    cases blank
  · simp only [List.mem_cons, List.not_mem_nil, or_false, not_or] at plain sign
    obtain ⟨notLeft, notRight, notQuote, notEquals⟩ := plain
    simpa [notLeft, notRight, notQuote, notEquals] using sign

end Runs

variable {token next : Token} {tokens : List Token} {written space text rest : List Char}

/-- The text behind a token does not run into it. -/
structure Stops (token : Token) (rest : List Char) : Prop where
  run : token.isRun → ∀ c tail, rest = c :: tail → endsWord c tail = true
  bang : ∀ typed, token = word typed → typed.toList.getLast? = some '!' → rest.head? ≠ some '='
  symbol : token = compare .contains → rest.head? ≠ some '='

theorem stops_nil (token : Token) : Stops token [] where
  run := fun _ _ _ empty ↦ nomatch empty
  bang := fun _ _ _ empty ↦ nomatch empty
  symbol := fun _ empty ↦ nomatch empty

theorem stops_of_blank {c : Char} (blank : isBlank c) (token : Token) (rest : List Char) :
    Stops token (c :: rest) := by
  have ends : endsWord c rest = true := by simp [endsWord, blank]
  have other : (c :: rest).head? ≠ some '=' := by
    rw [List.head?_cons, ne_eq, Option.some_inj]
    rintro rfl
    cases blank
  refine ⟨fun _ d tail same ↦ ?_, fun _ _ _ ↦ other, fun _ ↦ other⟩
  cases same
  exact ends

/-- A token that is no run starts with a sign that ends words, and `=` starts only symbols. -/
theorem Spells.starts (h : Spells next written) : ∃ c tail, written = c :: tail ∧
    (next.isRun = false → ∀ rest, endsWord c (tail ++ rest) = true) ∧
    (c = '=' → ∃ comparison, comparison ≠ .excludes ∧ next = Token.compare comparison) := by
  cases h with
  | leftParen => exact ⟨'(', [], rfl, fun _ _ ↦ rfl, fun sign ↦ absurd sign (by decide)⟩
  | rightParen => exact ⟨')', [], rfl, fun _ _ ↦ rfl, fun sign ↦ absurd sign (by decide)⟩
  | phrase content => exact ⟨'"', _, rfl, fun _ _ ↦ rfl, fun sign ↦ absurd sign (by decide)⟩
  | compare comparison =>
    cases comparison with
    | contains => exact ⟨'=', [], rfl, fun _ _ ↦ rfl, fun _ ↦ ⟨.contains, by decide, rfl⟩⟩
    | exact => exact ⟨'=', ['='], rfl, fun _ _ ↦ rfl, fun _ ↦ ⟨.exact, by decide, rfl⟩⟩
    | excludes => exact ⟨'!', ['='], rfl, fun _ _ ↦ rfl, fun sign ↦ absurd sign (by decide)⟩
  | keyword named same =>
    obtain ⟨run, _, _⟩ := keyword_letters named
    obtain ⟨nonempty, unbroken⟩ := isUnbroken_of_keyword named same
    obtain ⟨c, tail, typed_eq⟩ := List.exists_cons_of_ne_nil nonempty
    refine ⟨c, tail, typed_eq, fun notRun ↦ ?_, ?_⟩
    · rw [run] at notRun
      cases notRun
    · rintro rfl
      exact absurd (.inr (by decide)) (unbroken '=' (by simp [typed_eq]))
  | word isWord =>
    obtain ⟨c, tail, typed_eq⟩ := List.exists_cons_of_ne_nil isWord.nonempty
    refine ⟨c, tail, typed_eq, fun notRun ↦ ?_, ?_⟩
    · cases notRun
    · rintro rfl
      have bang := isWord.unbroken '=' (by simp [typed_eq]) (.inr (by decide))
      cases bang

/-- Tokens that cannot run together need no white space. -/
theorem Spells.stops (h : Spells next written) (apart : ¬ RunTogether token next)
    (rest : List Char) : Stops token (written ++ rest) := by
  obtain ⟨c, tail, written_eq, endsRun, ofSign⟩ := h.starts
  subst written_eq
  rw [List.cons_append]
  constructor
  · intro run d behind same
    cases same
    apply endsRun
    rw [Bool.eq_false_iff]
    exact fun nextRun ↦ apart (.runs run nextRun)
  · rintro typed rfl last sign
    obtain ⟨comparison, other, rfl⟩ := ofSign (Option.some_inj.1 sign)
    exact apart (.bang last other)
  · rintro rfl sign
    obtain ⟨comparison, other, rfl⟩ := ofSign (Option.some_inj.1 sign)
    exact apart (.symbols other)

theorem SpellsAll.stops (h : SpellsAll tokens text)
    (apart : ∀ next ∈ tokens.head?, ¬ RunTogether token next) : Stops token text := by
  cases h with
  | nil => exact stops_nil token
  | cons here _ _ _ => exact here.stops (apart _ rfl) _

/-- A spelled token is cut off if it stops in front of the rest. -/
theorem Spells.cutsInto (h : Spells token written) (stops : Stops token rest) :
    CutsInto written [token] rest := by
  cases h with
  | leftParen => exact cutsInto_leftParen rest
  | rightParen => exact cutsInto_rightParen rest
  | phrase content => exact cutsInto_phrase content rest
  | compare comparison =>
    apply cutsInto_symbol
    rintro rfl
    exact stops.symbol rfl
  | keyword named same =>
    obtain ⟨run, _, _⟩ := keyword_letters named
    have unbroken := isUnbroken_of_keyword named same
    rw [← ofWord_eq_of_sameLetters named same]
    exact cutsInto_word unbroken.1 (isRun_of_isUnbroken unbroken (stops.run run))
  | @word typed isWord =>
    rw [← isWord.ofWord_eq]
    exact cutsInto_word isWord.nonempty ⟨isWord.unbroken, stops.bang typed rfl, stops.run rfl⟩

theorem cutsInto_space (blank : ∀ c ∈ space, isBlank c) (rest : List Char) :
    CutsInto space [] rest := by
  induction space with
  | nil =>
    unfold CutsInto
    rw [List.nil_append]
    cases scan rest with
    | error => rfl
    | ok => rfl
  | cons c space ih =>
    obtain ⟨first, others⟩ := List.forall_mem_cons.1 blank
    exact (cutsInto_blank first (space ++ rest)).append (ih others)

/-- Spelled tokens are cut off one by one, by induction on them. -/
theorem SpellsAll.cutsInto (h : SpellsAll tokens text) : CutsInto text tokens [] := by
  induction h with
  | nil => exact cutsInto_space (by simp) []
  | @cons token tokens written space text here blank apart there ih =>
    have stops : Stops token (space ++ text) := by
      cases space with
      | nil => exact there.stops fun next member together ↦ apart next member together rfl
      | cons c space => exact stops_of_blank (blank c List.mem_cons_self) token (space ++ text)
    have behind := (cutsInto_space blank (text ++ [])).append ih
    have first : CutsInto written [token] (space ++ text ++ []) := by
      rw [List.append_nil]
      exact here.cutsInto stops
    exact first.append behind

/-- A list of tokens is read back from every text that writes it. -/
theorem tokenize_of_spellsAll (blank : ∀ c ∈ space, isBlank c) (h : SpellsAll tokens text) :
    tokenize (String.ofList (space ++ text)) = .ok tokens := by
  apply CutsInto.tokenize
  rw [String.toList_ofList]
  exact (cutsInto_space blank (text ++ [])).append h.cutsInto

theorem tokenize_spaced :
    tokenize " nOt\u3000c!\t= ==(\"a\\\"b\\\\\"x" =
      .ok [not, word "c!", compare .contains, compare .exact, leftParen, phrase "a\"b\\",
        word "x"] := by
  have nothing : ∀ c ∈ ([] : List Char), isBlank c := by simp
  have space : ∀ c ∈ [' '], isBlank c := List.forall_mem_singleton.2 (by decide)
  have tab : ∀ c ∈ ['\t'], isBlank c := List.forall_mem_singleton.2 (by decide)
  have ideographic : ∀ c ∈ ['\u3000'], isBlank c := List.forall_mem_singleton.2 (by decide)
  have last : IsWord "x" := ⟨by decide, List.forall_mem_singleton.2 (by decide), by decide⟩
  have bang : IsWord "c!" :=
    ⟨by decide, List.forall_mem_cons.2 ⟨by decide, List.forall_mem_singleton.2 (by decide)⟩,
      by decide⟩
  have group : SpellsAll [leftParen, phrase "a\"b\\", word "x"] _ :=
    .cons .leftParen nothing (by rintro _ ⟨⟩ ⟨⟨⟩⟩)
      (.cons (.phrase "a\"b\\") nothing (by rintro _ ⟨⟩ ⟨⟨⟩⟩)
        (.cons (.word last) nothing (by simp) .nil))
  have symbols : SpellsAll (compare .contains :: compare .exact :: _) _ :=
    .cons (.compare .contains) space (fun _ _ _ ↦ List.cons_ne_nil _ _)
      (.cons (.compare .exact) nothing (by rintro _ ⟨⟩ ⟨⟨⟩⟩) group)
  have keyword : Spells not "nOt".toList := .keyword rfl (by decide)
  have all := SpellsAll.cons keyword ideographic (fun _ _ _ ↦ List.cons_ne_nil _ _)
    (.cons (.word bang) tab (fun _ _ _ ↦ List.cons_ne_nil _ _) symbols)
  refine Eq.trans (congrArg tokenize ?_) (tokenize_of_spellsAll space all)
  decide +kernel

end RecordSearch.Token
