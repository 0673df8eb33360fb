import RecordSearch.Proofs.Surroundings

/-!
# Lexemes

A text that has tokens is nothing but their lexemes and white space.  A lexeme is a symbol, a word
or keyword as it was typed, or a phrase with its quotes, in which any characters may stand behind
backslashes.  A text that has no tokens has a quote that begins a phrase and is never closed.  What
stands before this quote has tokens, and the failure gives the place of the quote in bytes.
-/

namespace RecordSearch.Token

open Unicode (isBlank BreaksWord)

variable {c : Char} {text space body content rest tail written : List Char} {token : Token}
  {tokens : List Token}

/-- What is written between the quotes of a phrase and what it stands for.  Behind a backslash, a
quote or another backslash stands for itself alone. -/
inductive Unescapes : List Char → List Char → Prop
  | nil : Unescapes [] []
  | plain {c : Char} {body content : List Char} (notQuote : c ≠ '"') (notBackslash : c ≠ '\\')
    (behind : Unescapes body content) : Unescapes (c :: body) (c :: content)
  | escaped {c : Char} {body content : List Char} (special : c = '"' ∨ c = '\\')
    (behind : Unescapes body content) : Unescapes ('\\' :: c :: body) (c :: content)
  | kept {c : Char} {body content : List Char} (notQuote : c ≠ '"') (notBackslash : c ≠ '\\')
    (behind : Unescapes body content) : Unescapes ('\\' :: c :: body) ('\\' :: c :: content)

/-- A text without a quote that could close a phrase: every quote in it belongs to a backslash. -/
inductive NeverCloses : List Char → Prop
  | nil : NeverCloses []
  | backslash : NeverCloses ['\\']
  | plain {c : Char} {rest : List Char} (notQuote : c ≠ '"') (notBackslash : c ≠ '\\')
    (behind : NeverCloses rest) : NeverCloses (c :: rest)
  | pair (c : Char) {rest : List Char} (behind : NeverCloses rest) :
    NeverCloses ('\\' :: c :: rest)

theorem Unescapes.pair (c : Char) (h : Unescapes body content) :
    Unescapes ('\\' :: c :: body) (unescape c ++ content) := by
  unfold unescape
  split
  · rename_i special
    exact .escaped special h
  · rename_i plain
    rw [not_or] at plain
    exact .kept plain.1 plain.2 h

/-- An escaped body is read up to the quote that closes it. -/
theorem Unescapes.readPhrase_append (h : Unescapes body content) (rest : List Char) :
    readPhrase (body ++ '"' :: rest) = some (content, rest) := by
  induction h with
  | nil => rfl
  | plain notQuote notBackslash _ ih =>
    rw [List.cons_append, readPhrase, ih]
    · rfl
    · exact notQuote
    · rintro _ _ same _
      exact notBackslash same
  | escaped special _ ih =>
    rw [List.cons_append, List.cons_append, readPhrase, ih, unescape, if_pos special]
    rfl
  | kept notQuote notBackslash _ ih =>
    rw [List.cons_append, List.cons_append, readPhrase, ih, unescape,
      if_neg (not_or.2 ⟨notQuote, notBackslash⟩)]
    rfl

/-- What is read of a phrase ends with the quote that closes it. -/
theorem exists_unescapes_of_readPhrase (h : readPhrase text = some (content, rest)) :
    ∃ body, text = body ++ '"' :: rest ∧ Unescapes body content := by
  fun_induction readPhrase text generalizing content rest with
  | case1 => cases h
  | case2 tail =>
    cases h
    exact ⟨[], rfl, .nil⟩
  | case3 c tail ih =>
    obtain ⟨⟨inner, behind⟩, found, equal⟩ := Option.map_eq_some_iff.1 h
    cases equal
    obtain ⟨body, rfl, unescapes⟩ := ih found
    exact ⟨'\\' :: c :: body, rfl, unescapes.pair c⟩
  | case4 c tail notQuote notPair ih =>
    obtain ⟨⟨inner, behind⟩, found, equal⟩ := Option.map_eq_some_iff.1 h
    cases equal
    obtain ⟨body, rfl, unescapes⟩ := ih found
    refine ⟨c :: body, rfl, .plain notQuote ?_ unescapes⟩
    rintro rfl
    -- A backslash is no plain character, because the closing quote, at least, follows it.
    obtain ⟨d, tail, tail_eq⟩ := List.exists_cons_of_ne_nil
      (List.append_ne_nil_of_right_ne_nil body (List.cons_ne_nil '"' rest))
    exact notPair d tail rfl tail_eq

/-- Where no phrase is read, there is no quote that closes it. -/
theorem neverCloses_of_readPhrase (h : readPhrase text = none) : NeverCloses text := by
  fun_induction readPhrase text with
  | case1 => exact .nil
  | case2 => cases h
  | case3 c tail ih => exact .pair c (ih (Option.map_eq_none_iff.1 h))
  | case4 c tail notQuote notPair ih =>
    by_cases backslash : c = '\\'
    · subst backslash
      cases tail with
      | nil => exact .backslash
      | cons d tail => exact absurd rfl (notPair d tail rfl)
    · exact .plain notQuote backslash (ih (Option.map_eq_none_iff.1 h))

theorem isRun_nil (ends : ∀ c tail, rest = c :: tail → endsWord c tail = true) : IsRun [] rest where
  unbroken := List.forall_mem_nil _
  apart := fun last ↦ nomatch last
  ends := ends

/-- A character that ends no word can be put before a run. -/
theorem IsRun.cons (h : IsRun text rest) (goesOn : endsWord c (text ++ rest) = false) :
    IsRun (c :: text) rest where
  unbroken := by
    simp only [endsWord, Bool.or_eq_false_iff, beq_eq_false_iff_ne] at goesOn
    obtain ⟨⟨⟨⟨⟨visible, notLeft⟩, notRight⟩, notQuote⟩, notEquals⟩, -⟩ := goesOn
    refine List.forall_mem_cons.2 ⟨?_, h.unbroken⟩
    rintro (blank | sign)
    · rw [visible] at blank
      cases blank
    · simpa [notLeft, notRight, notQuote, notEquals] using sign
  apart := by
    intro last follows
    cases text with
    | nil =>
      obtain rfl : c = '!' := Option.some_inj.1 last
      rw [List.nil_append, endsWord, follows] at goesOn
      cases goesOn
    | cons d text => exact h.apart last follows
  ends := h.ends

/-- A text is split where its first word ends. -/
theorem isRun_splitWord (text : List Char) : (splitWord text).1 ++ (splitWord text).2 = text ∧
    IsRun (splitWord text).1 (splitWord text).2 := by
  induction text with
  | nil => exact ⟨rfl, isRun_nil fun _ _ empty ↦ nomatch empty⟩
  | cons c text ih =>
    rw [splitWord]
    split
    · rename_i ends
      refine ⟨rfl, isRun_nil fun d tail same ↦ ?_⟩
      cases same
      exact ends
    · rename_i goesOn
      obtain ⟨text_eq, run⟩ := ih
      refine ⟨congrArg (c :: ·) text_eq, run.cons ?_⟩
      rw [text_eq]
      exact Bool.eq_false_iff.2 goesOn

/-- A run is the lexeme of its word or keyword, which ends where the run ends. -/
theorem IsRun.spells_ofWord (h : IsRun written rest) (nonempty : written ≠ []) :
    Spells (ofWord (String.ofList written)) written ∧
      Stops (ofWord (String.ofList written)) rest := by
  have letters : (String.ofList written).toList = written := String.toList_ofList
  have keyword : ∀ {token : Token} {name : String}, token.keyword? = some name →
      Text.sameLetters (String.ofList written) name → Spells token written ∧ Stops token rest := by
    intro token name named same
    have spells := Spells.keyword named same
    rw [letters] at spells
    refine ⟨spells, fun _ ↦ h.ends, ?_, ?_⟩
    · rintro typed rfl
      cases named
    · rintro rfl
      cases named
  unfold ofWord
  split
  · exact keyword rfl ‹_›
  split
  · exact keyword rfl ‹_›
  split
  · exact keyword rfl ‹_›
  rename_i notAnd notOr notNot
  have isWord : IsWord (String.ofList written) := by
    refine ⟨by rwa [letters], ?_, ?_⟩
    · rw [letters]
      intro c member
      have unbroken := h.unbroken c member
      constructor
      · rw [Bool.eq_false_iff]
        intro blank
        obtain rfl := unbroken (.inl blank)
        cases blank
      · intro sign
        have breaks : BreaksWord c := .inr (List.mem_append_left ['!'] sign)
        obtain rfl := unbroken breaks
        revert sign
        decide
    · simp [notAnd, notOr, notNot]
  have spells := Spells.word isWord
  rw [letters] at spells
  refine ⟨spells, fun _ ↦ h.ends, ?_, fun other ↦ nomatch other⟩
  rintro typed ⟨⟩ last
  rw [letters] at last
  exact h.apart last

/-- How a token stands in a text. -/
inductive Lexeme : Token → List Char → Prop
  | spelled {token : Token} {written : List Char} (spells : Spells token written) :
    Lexeme token written
  | phrase {body content : List Char} (unescapes : Unescapes body content) :
    Lexeme (phrase (String.ofList content)) ('"' :: (body ++ ['"']))

/-- A lexeme is cut into its token if the token stops in front of the rest. -/
theorem Lexeme.cutsInto (h : Lexeme token written) (stops : Stops token rest) :
    CutsInto written [token] rest := by
  cases h with
  | spelled spells => exact spells.cutsInto stops
  | phrase unescapes =>
    apply cutsInto_of_read (by decide)
    rw [read, if_neg (by decide), if_neg (by decide), if_pos rfl, List.append_assoc,
      List.singleton_append, unescapes.readPhrase_append]
    rfl

/-- A parenthesis or a phrase ends with its last sign. -/
theorem stops_of_isRun_eq_false (token : Token) (notRun : token.isRun = false)
    (other : token ≠ compare .contains) (rest : List Char) : Stops token rest where
  run := by
    rw [notRun]
    intro run
    cases run
  bang := by
    rintro typed rfl
    cases notRun
  symbol := fun same ↦ absurd same other

theorem exists_symbol_of_readComparison {comparison : Comparison}
    (h : readComparison text = some (comparison, rest)) :
    text = comparison.symbol.toList ++ rest ∧ Stops (compare comparison) rest := by
  unfold readComparison at h
  split at h
  · cases h
    exact ⟨rfl, stops_of_isRun_eq_false (compare .exact) rfl (by rintro ⟨⟩) _⟩
  · cases h
    exact ⟨rfl, stops_of_isRun_eq_false (compare .excludes) rfl (by rintro ⟨⟩) _⟩
  · rename_i tail notExact
    cases h
    refine ⟨rfl, ⟨nofun, nofun, fun _ follows ↦ ?_⟩⟩
    cases rest with
    | nil => cases follows
    | cons d rest =>
      obtain rfl := Option.some_inj.1 follows
      exact notExact rest rfl
  · cases h

theorem endsWord_eq_false_of_readComparison (visible : isBlank c = false) (notLeft : c ≠ '(')
    (notRight : c ≠ ')') (notQuote : c ≠ '"') (h : readComparison (c :: text) = none) :
    endsWord c text = false := by
  unfold readComparison at h
  split at h
  · cases h
  · cases h
  · cases h
  rename_i noExact noExcludes noContains
  have notEquals : c ≠ '=' := by
    rintro rfl
    exact noContains text rfl
  have notBang : c = '!' → text.head? ≠ some '=' := by
    rintro rfl follows
    obtain ⟨rest, rfl⟩ := List.head?_eq_some_iff.1 follows
    exact noExcludes rest rfl
  simp only [endsWord, visible, Bool.false_or, Bool.or_eq_false_iff, Bool.and_eq_false_imp,
    beq_eq_false_iff_ne, beq_iff_eq]
  exact ⟨⟨⟨⟨notLeft, notRight⟩, notQuote⟩, notEquals⟩, notBang⟩

/-- What is read of a text is a lexeme, which ends where the rest begins. -/
theorem exists_lexeme_of_read (visible : isBlank c = false) (h : read c text = some (token, rest)) :
    ∃ written, c :: text = written ++ rest ∧ Lexeme token written ∧ Stops token rest := by
  by_cases left : c = '('
  · rw [read, if_pos left] at h
    cases h
    subst left
    refine ⟨['('], rfl, .spelled .leftParen, ?_⟩
    exact stops_of_isRun_eq_false leftParen rfl (by rintro ⟨⟩) _
  by_cases right : c = ')'
  · rw [read, if_neg left, if_pos right] at h
    cases h
    subst right
    refine ⟨[')'], rfl, .spelled .rightParen, ?_⟩
    exact stops_of_isRun_eq_false rightParen rfl (by rintro ⟨⟩) _
  by_cases quote : c = '"'
  · rw [read, if_neg left, if_neg right, if_pos quote] at h
    obtain ⟨⟨content, behind⟩, found, equal⟩ := Option.map_eq_some_iff.1 h
    cases equal
    subst quote
    obtain ⟨body, rfl, unescapes⟩ := exists_unescapes_of_readPhrase found
    refine ⟨'"' :: (body ++ ['"']), by simp, .phrase unescapes, ?_⟩
    exact stops_of_isRun_eq_false (phrase _) rfl (by rintro ⟨⟩) _
  rw [read, if_neg left, if_neg right, if_neg quote] at h
  cases found : readComparison (c :: text) with
  | some symbol =>
    obtain ⟨comparison, behind⟩ := symbol
    rw [found] at h
    cases h
    obtain ⟨text_eq, stops⟩ := exists_symbol_of_readComparison found
    exact ⟨_, text_eq, .spelled (.compare comparison), stops⟩
  | none =>
    rw [found] at h
    cases h
    obtain ⟨text_eq, run⟩ := isRun_splitWord text
    have goesOn := endsWord_eq_false_of_readComparison visible left right quote found
    rw [← text_eq] at goesOn
    obtain ⟨spells, stops⟩ := (run.cons goesOn).spells_ofWord (List.cons_ne_nil _ _)
    exact ⟨_, by rw [List.cons_append, text_eq], .spelled spells, stops⟩

/-- The text is made of the lexemes of the tokens and of white space, and each lexeme ends where
the text behind it lets it end. -/
inductive Segmented : List Token → List Char → Prop
  | space {space : List Char} (blank : ∀ c ∈ space, isBlank c) : Segmented [] space
  | token {token : Token} {tokens : List Token} {space written rest : List Char}
    (blank : ∀ c ∈ space, isBlank c) (here : Lexeme token written) (stops : Stops token rest)
    (there : Segmented tokens rest) : Segmented (token :: tokens) (space ++ (written ++ rest))

theorem Segmented.cons_blank (h : Segmented tokens text) (blank : isBlank c) :
    Segmented tokens (c :: text) := by
  cases h with
  | space all => exact .space (List.forall_mem_cons.2 ⟨blank, all⟩)
  | token all here stops there =>
    exact .token (List.forall_mem_cons.2 ⟨blank, all⟩) here stops there

/-- A segmented text is cut into its tokens, by induction on the segments. -/
theorem Segmented.cutsInto (h : Segmented tokens text) : CutsInto text tokens [] := by
  induction h with
  | space blank => exact cutsInto_space blank []
  | @token token tokens space written rest blank here stops _ ih =>
    have first : CutsInto written [token] (rest ++ []) := by
      rw [List.append_nil]
      exact here.cutsInto stops
    exact (cutsInto_space blank _).append (first.append ih)

theorem Segmented.isWord {typed : String} (h : Segmented tokens text)
    (member : word typed ∈ tokens) : IsWord typed := by
  induction h with
  | space => cases member
  | token _ here _ _ ih =>
    rcases List.mem_cons.1 member with rfl | behind
    · cases here with
      | spelled spells =>
        cases spells with
        | keyword named => cases named
        | word isWord => exact isWord
    · exact ih behind

/-- What stops a token in front of a longer text stops it in front of the start of this text, if the
text behind could not have been a part of the token. -/
theorem Stops.of_append (h : Stops token (text ++ rest)) (other : StopsAll rest) :
    Stops token text where
  run := by
    rintro run c tail rfl
    have ends := h.run run c (tail ++ rest) rfl
    rwa [other.endsWord_append] at ends
  bang := by
    intro typed token_eq last follows
    exact h.bang typed token_eq last (by rw [List.head?_append, follows, Option.some_or])
  symbol := by
    intro token_eq follows
    exact h.symbol token_eq (by rw [List.head?_append, follows, Option.some_or])

/-- A text that is scanned is segmented into its tokens. -/
theorem segmented_of_scan (h : scan text = .ok tokens) : Segmented tokens text := by
  induction text using scan.induct generalizing tokens with
  | case1 =>
    rw [scan.eq_def] at h
    cases h
    exact .space (List.forall_mem_nil _)
  | case2 c text blank ih =>
    rw [scan_of_blank blank] at h
    exact (ih h).cons_blank blank
  | case3 c text visible nothing =>
    rw [scan_of_read_eq_none (Bool.eq_false_iff.2 visible) nothing] at h
    cases h
  | case4 c text visible token after found ih =>
    have seen := Bool.eq_false_iff.2 visible
    obtain ⟨token', after', others, found', scanned, rfl⟩ := exists_read_of_scan seen h
    rw [found] at found'
    cases found'
    obtain ⟨written, text_eq, here, stops⟩ := exists_lexeme_of_read seen found
    rw [text_eq]
    exact .token (List.forall_mem_nil _) here stops (ih scanned)

/-- What is not cut into tokens has a quote that is never closed, and tokens before it. -/
theorem scan_eq_error (h : scan text = .error rest) : ∃ before tail, text = before ++ rest ∧
    rest = '"' :: tail ∧ NeverCloses tail ∧ ∃ tokens, Segmented tokens before := by
  induction text using scan.induct with
  | case1 =>
    rw [scan.eq_def] at h
    cases h
  | case2 c text blank ih =>
    rw [scan_of_blank blank] at h
    obtain ⟨before, tail, rfl, rest_eq, noEnd, tokens, segmented⟩ := ih h
    exact ⟨c :: before, tail, rfl, rest_eq, noEnd, tokens, segmented.cons_blank blank⟩
  | case3 c text visible nothing =>
    rw [scan_of_read_eq_none (Bool.eq_false_iff.2 visible) nothing] at h
    cases h
    obtain ⟨rfl, noEnd⟩ := readPhrase_of_read_eq_none nothing
    exact ⟨[], text, rfl, rfl, neverCloses_of_readPhrase noEnd, [], .space (List.forall_mem_nil _)⟩
  | case4 c text visible token after found ih =>
    have seen := Bool.eq_false_iff.2 visible
    rw [scan_of_read seen found] at h
    cases scanned : scan after with
    | ok others =>
      rw [scanned] at h
      cases h
    | error unread =>
      rw [scanned] at h
      cases h
      obtain ⟨before, tail, rfl, rfl, noEnd, tokens, segmented⟩ := ih scanned
      obtain ⟨written, text_eq, here, stops⟩ := exists_lexeme_of_read seen found
      refine ⟨written ++ before, tail, by rw [text_eq, List.append_assoc], rfl, noEnd,
        token :: tokens, ?_⟩
      exact .token (List.forall_mem_nil _) here (stops.of_append (stopsAll_quote tail)) segmented

/-- A text that has tokens is made of their lexemes and of white space.  A text that has none is a
text that has tokens, a quote, and a text without a quote that could close the phrase; the failure
is at the position of this quote in bytes. -/
theorem tokenize_segments (text : String) : match tokenize text with
    | .ok tokens =>
      Segmented tokens text.toList ∧ ∀ typed, word typed ∈ tokens → IsWord typed
    | .error failure => ∃ before rest : String, text = before ++ "\"" ++ rest ∧
      failure = .unterminatedQuote before.utf8ByteSize ∧ NeverCloses rest.toList ∧
        ∃ tokens, tokenize before = .ok tokens := by
  cases scanned : scan text.toList with
  | ok tokens =>
    have tokenized : tokenize text = .ok tokens := by rw [tokenize, scanned]
    have segmented := segmented_of_scan scanned
    rw [tokenized]
    exact ⟨segmented, fun typed ↦ segmented.isWord⟩
  | error unread =>
    obtain ⟨before, tail, text_eq, rfl, noEnd, tokens, segmented⟩ := scan_eq_error scanned
    have position : Text.utf8Size text.toList - Text.utf8Size ('"' :: tail) =
        (String.ofList before).utf8ByteSize := by
      rw [text_eq, Text.utf8Size_append, Nat.add_sub_cancel, Text.utf8ByteSize_ofList]
    have tokenized : tokenize text =
        .error (.unterminatedQuote (String.ofList before).utf8ByteSize) := by
      rw [tokenize, scanned, ← position]
    have parts : text = String.ofList before ++ "\"" ++ String.ofList tail := by
      rw [← String.toList_inj, text_eq]
      simp
    rw [tokenized]
    refine ⟨String.ofList before, String.ofList tail, parts, rfl, ?_, tokens, ?_⟩
    · rwa [String.toList_ofList]
    · apply CutsInto.tokenize
      rw [String.toList_ofList]
      exact segmented.cutsInto

end RecordSearch.Token
