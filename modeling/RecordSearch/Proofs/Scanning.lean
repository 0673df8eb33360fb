import RecordSearch.Proofs.Lowercase
import RecordSearch.Query.Print
import RecordSearch.Query.Scan

/-!
# Cutting written texts

A text that is put together from pieces is cut into the tokens of the pieces, provided that no piece
runs into the next one.  What a piece needs for this is a condition on the text behind it, so every
statement here is about a piece in front of a rest.
-/

namespace RecordSearch.Token

open Unicode (isBlank BreaksWord)

variable {c : Char} {text first second rest rest' : List Char} {token : Token}
  {tokens before behind : List Token}

/-- In front of the rest, a text is cut into the given tokens and nothing of it is left over. -/
def CutsInto (text : List Char) (tokens : List Token) (rest : List Char) : Prop :=
  scan (text ++ rest) = (scan rest).map (tokens ++ ·)

/-- Texts one after the other are cut into their tokens one after the other. -/
theorem CutsInto.append (here : CutsInto first before (second ++ rest))
    (there : CutsInto second behind rest) : CutsInto (first ++ second) (before ++ behind) rest := by
  unfold CutsInto at here there ⊢
  calc
    scan (first ++ second ++ rest) = (scan (second ++ rest)).map (before ++ ·) := by
      rw [List.append_assoc, here]
    _ = ((scan rest).map (behind ++ ·)).map (before ++ ·) := by rw [there]
    _ = (scan rest).map (before ++ behind ++ ·) := by
      cases scan rest with
      | error => rfl
      | ok tokens => exact congrArg Except.ok (List.append_assoc before behind tokens).symm

theorem CutsInto.tokenize {text : String} (h : CutsInto text.toList tokens []) :
    tokenize text = .ok tokens := by
  unfold CutsInto at h
  rw [List.append_nil, scan.eq_def []] at h
  rw [Token.tokenize, h]
  exact congrArg Except.ok (List.append_nil tokens)

-- The definition is unfolded as a whole, because Lean would prove its equation for `c :: rest` by
-- looking up `c` in the tables.
theorem scan_of_blank (blank : isBlank c) (rest : List Char) : scan (c :: rest) = scan rest := by
  rw [scan.eq_def]
  exact if_pos blank

theorem cutsInto_blank (blank : isBlank c) (rest : List Char) : CutsInto [c] [] rest := by
  unfold CutsInto
  rw [List.singleton_append, scan_of_blank blank]
  cases scan rest with
  | error => rfl
  | ok => rfl

/-- A token that is read comes first, and the scan goes on behind it. -/
theorem scan_of_read (visible : isBlank c = false) (h : read c text = some (token, rest)) :
    scan (c :: text) = (scan rest).map (token :: ·) := by
  rw [scan.eq_def]
  dsimp only
  rw [if_neg (Bool.eq_false_iff.1 visible)]
  split
  · rename_i nothing
    rw [h] at nothing
    cases nothing
  · rename_i found
    rw [h] at found
    cases found
    rfl

theorem scan_of_read_eq_none (visible : isBlank c = false) (h : read c text = none) :
    scan (c :: text) = .error (c :: text) := by
  rw [scan.eq_def]
  dsimp only
  rw [if_neg (Bool.eq_false_iff.1 visible)]
  split
  · rfl
  · rename_i found
    rw [h] at found
    cases found

/-- What is read of a text that begins with no white space: its first token and the others. -/
theorem exists_read_of_scan (visible : isBlank c = false) (h : scan (c :: text) = .ok tokens) :
    ∃ token rest others, read c text = some (token, rest) ∧ scan rest = .ok others ∧
      tokens = token :: others := by
  cases found : read c text with
  | none =>
    rw [scan_of_read_eq_none visible found] at h
    cases h
  | some step =>
    obtain ⟨token, rest⟩ := step
    rw [scan_of_read visible found] at h
    cases scanned : scan rest with
    | error unread =>
      rw [scanned] at h
      cases h
    | ok others =>
      rw [scanned] at h
      cases h
      exact ⟨token, rest, others, rfl, scanned, rfl⟩

theorem scan_of_tokenize {text : String} (h : tokenize text = .ok tokens) :
    scan text.toList = .ok tokens := by
  unfold tokenize at h
  split at h
  · rename_i scanned
    cases h
    exact scanned
  · cases h

theorem eq_of_ofWord {run typed : String} (h : ofWord run = word typed) : run = typed := by
  unfold ofWord at h
  split at h
  · cases h
  split at h
  · cases h
  split at h
  · cases h
  cases h
  rfl

/-- The words of a text are no keywords. -/
theorem ofWord_of_read {typed : String} (h : read c text = some (word typed, rest)) :
    ofWord typed = word typed := by
  unfold read at h
  split at h
  · cases h
  split at h
  · cases h
  split at h
  · obtain ⟨phrase, _, equal⟩ := Option.map_eq_some_iff.1 h
    cases equal
  split at h
  · cases h
  · have token_eq := congrArg Prod.fst (Option.some_inj.1 h)
    rwa [eq_of_ofWord token_eq] at token_eq

theorem ofWord_of_mem_scan {typed : String} (h : scan text = .ok tokens)
    (member : word typed ∈ tokens) : ofWord typed = word typed := by
  induction text using scan.induct generalizing tokens with
  | case1 =>
    rw [scan.eq_def] at h
    cases h
    cases member
  | case2 c text blank ih =>
    rw [scan_of_blank blank] at h
    exact ih h member
  | case3 c text visible nothing =>
    rw [scan_of_read_eq_none (Bool.eq_false_iff.2 visible) nothing] at h
    cases h
  | case4 c text visible token after found ih =>
    obtain ⟨first, rest, others, found', scanned, rfl⟩ :=
      exists_read_of_scan (Bool.eq_false_iff.2 visible) h
    rcases List.mem_cons.1 member with here | there
    · rw [← here] at found'
      exact ofWord_of_read found'
    · rw [found] at found'
      cases found'
      exact ih scanned there

theorem cutsInto_of_read (visible : isBlank c = false)
    (h : read c (text ++ rest) = some (token, rest)) : CutsInto (c :: text) [token] rest :=
  scan_of_read visible h

theorem cutsInto_leftParen (rest : List Char) : CutsInto ['('] [leftParen] rest := by
  apply cutsInto_of_read (by decide)
  rw [read, if_pos rfl]
  rfl

theorem cutsInto_rightParen (rest : List Char) : CutsInto [')'] [rightParen] rest := by
  apply cutsInto_of_read (by decide)
  rw [read, if_neg (by decide), if_pos rfl]
  rfl

/-- A symbol is read whole; only `=` could be the start of a longer one. -/
theorem cutsInto_symbol (comparison : Comparison)
    (h : comparison = .contains → rest.head? ≠ some '=') :
    CutsInto comparison.symbol.toList [compare comparison] rest := by
  cases comparison with
  | contains =>
    apply cutsInto_of_read (c := '=') (by decide)
    cases rest with
    | nil => rfl
    | cons d rest =>
      have other : d ≠ '=' := fun same ↦ h rfl (congrArg some same)
      simp [read, readComparison, other]
  | exact => exact cutsInto_of_read (c := '=') (by decide) rfl
  | excludes => exact cutsInto_of_read (c := '!') (by decide) rfl

theorem readPhrase_escape_append (c : Char) (rest : List Char) :
    readPhrase (Expression.escape c ++ rest) =
      (readPhrase rest).map fun (content, rest) ↦ (c :: content, rest) := by
  unfold Expression.escape
  split
  · rename_i special
    rw [List.cons_append, List.singleton_append, readPhrase, unescape, if_pos special]
    rfl
  · rename_i plain
    rw [not_or] at plain
    rw [List.singleton_append, readPhrase]
    · exact plain.1
    · intro _ _ same
      exact absurd same plain.2

/-- Escaping is undone in a phrase. -/
theorem readPhrase_flatMap_escape (content rest : List Char) :
    readPhrase (content.flatMap Expression.escape ++ '"' :: rest) = some (content, rest) := by
  induction content with
  | nil => rfl
  | cons c content ih =>
    rw [List.flatMap_cons, List.append_assoc, readPhrase_escape_append, ih]
    rfl

/-- A quoted value is cut into its phrase. -/
theorem cutsInto_phrase (value : String) (rest : List Char) :
    CutsInto ('"' :: (value.toList.flatMap Expression.escape ++ ['"'])) [phrase value] rest := by
  apply cutsInto_of_read (by decide)
  rw [read, if_neg (by decide), if_neg (by decide), if_pos rfl, List.append_assoc,
    List.singleton_append, readPhrase_flatMap_escape, Option.map_some]
  simp only [String.ofList_toList]

theorem breaksWord_of_endsWord (h : endsWord c rest) :
    BreaksWord c ∧ (c = '!' → rest.head? = some '=') := by
  simp only [endsWord, Bool.or_eq_true, Bool.and_eq_true, beq_iff_eq] at h
  constructor
  · rcases h with ((((blank | rfl) | rfl) | rfl) | rfl) | ⟨rfl, _⟩
    · exact .inl blank
    all_goals exact .inr (by decide)
  · rintro rfl
    rcases h with ((((blank | sign) | sign) | sign) | sign) | ⟨_, follows⟩
    · cases blank
    · cases sign
    · cases sign
    · cases sign
    · cases sign
    · exact follows

theorem readComparison_eq_none (h : endsWord c rest = false) :
    readComparison (c :: rest) = none := by
  unfold readComparison
  split <;> simp_all [endsWord]

/-- A word is read up to its end. -/
theorem read_of_endsWord_eq_false (h : endsWord c rest = false) :
    isBlank c = false ∧ read c rest =
      some (ofWord (String.ofList (c :: (splitWord rest).1)), (splitWord rest).2) := by
  have plain := h
  simp only [endsWord, Bool.or_eq_false_iff, beq_eq_false_iff_ne] at plain
  obtain ⟨⟨⟨⟨⟨visible, notLeft⟩, notRight⟩, notQuote⟩, _⟩, _⟩ := plain
  refine ⟨visible, ?_⟩
  rw [read, if_neg notLeft, if_neg notRight, if_neg notQuote, readComparison_eq_none h]

/-- A `!` at the end of the run must not meet an `=`, or both would be a symbol. -/
structure IsRun (run rest : List Char) : Prop where
  unbroken : ∀ c ∈ run, BreaksWord c → c = '!'
  apart : run.getLast? = some '!' → rest.head? ≠ some '='
  ends : ∀ c tail, rest = c :: tail → endsWord c tail = true

theorem IsRun.tail (h : IsRun (c :: text) rest) : IsRun text rest where
  unbroken := fun d member ↦ h.unbroken d (List.mem_cons_of_mem c member)
  apart := fun last ↦ h.apart (by rw [List.getLast?_cons, last, Option.getD_some])
  ends := h.ends

theorem IsRun.endsWord_eq_false (h : IsRun (c :: text) rest) :
    endsWord c (text ++ rest) = false := by
  rw [Bool.eq_false_iff]
  intro ends
  obtain ⟨breaks, follows⟩ := breaksWord_of_endsWord ends
  obtain rfl := h.unbroken c List.mem_cons_self breaks
  have := follows rfl
  revert this
  cases text with
  | nil => exact h.apart rfl
  | cons d text =>
    rw [List.cons_append, List.head?_cons, Option.some_inj]
    rintro rfl
    have breaks : BreaksWord '=' := .inr (by decide)
    exact absurd (h.unbroken '=' (by simp) breaks) (by decide)

theorem IsRun.splitWord_append (h : IsRun text rest) : splitWord (text ++ rest) = (text, rest) := by
  induction text with
  | nil =>
    cases rest with
    | nil => rfl
    | cons c tail => rw [List.nil_append, splitWord, if_pos (h.ends c tail rfl)]
  | cons c text ih =>
    rw [List.cons_append, splitWord, if_neg (Bool.eq_false_iff.1 h.endsWord_eq_false), ih h.tail]

theorem isRun_of_isUnbroken {word : String} (h : Field.IsUnbroken word)
    (ends : ∀ c tail, rest = c :: tail → endsWord c tail = true) : IsRun word.toList rest where
  unbroken := fun c member breaks ↦ absurd breaks (h.2 c member)
  apart := fun last ↦ absurd (.inr (by decide)) (h.2 '!' (List.mem_of_getLast? last))
  ends := ends

/-- A run of characters is cut into the word or keyword that it spells. -/
theorem cutsInto_word {word : String} (nonempty : word.toList ≠ []) (h : IsRun word.toList rest) :
    CutsInto word.toList [ofWord word] rest := by
  obtain ⟨c, run, word_eq⟩ := List.exists_cons_of_ne_nil nonempty
  rw [word_eq] at h ⊢
  obtain ⟨visible, read_eq⟩ := read_of_endsWord_eq_false h.endsWord_eq_false
  apply cutsInto_of_read visible
  rw [read_eq, h.tail.splitWord_append, ← word_eq, String.ofList_toList]

end RecordSearch.Token
