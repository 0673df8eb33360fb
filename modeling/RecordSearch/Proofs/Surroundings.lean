import RecordSearch.Proofs.Meaning
import RecordSearch.Proofs.Spacing

/-!
# What stands around a text

In front of white space or of a closing parenthesis every token ends where it would end with the
text.  So the tokens of a text stay what they are when either follows it, and a phrase that is never
closed is not closed by white space.  The main statement is that a query means the same with white
space around its text, whether the text is read as an expression or not.
-/

namespace RecordSearch.Token

open Unicode (isBlank)

variable {c : Char} {text space rest after content : List Char} {token : Token}
  {tokens : List Token}

/-- Every token stops in front of this text. -/
def StopsAll (rest : List Char) : Prop := ∀ token, Stops token rest

theorem stopsAll_space (blank : ∀ c ∈ space, isBlank c) : StopsAll space := by
  intro token
  cases space with
  | nil => exact stops_nil token
  | cons c space => exact stops_of_blank (blank c List.mem_cons_self) token space

/-- A sign that ends words stops all tokens, unless it could be a part of a symbol. -/
theorem stopsAll_cons (other : c ≠ '=') (rest : List Char) (ends : endsWord c rest) :
    StopsAll (c :: rest) := by
  intro token
  have different : (c :: rest).head? ≠ some '=' := by simpa using other
  refine ⟨fun _ d tail rest_eq ↦ ?_, fun _ _ _ ↦ different, fun _ ↦ different⟩
  cases rest_eq
  exact ends

theorem stopsAll_rightParen (rest : List Char) : StopsAll (')' :: rest) :=
  stopsAll_cons (by decide) rest rfl

theorem stopsAll_quote (rest : List Char) : StopsAll ('"' :: rest) :=
  stopsAll_cons (by decide) rest rfl

theorem StopsAll.endsWord (h : StopsAll rest) {tail : List Char} (rest_eq : rest = c :: tail) :
    endsWord c tail = true :=
  (h .and).run rfl c tail rest_eq

theorem StopsAll.head?_ne (h : StopsAll rest) : rest.head? ≠ some '=' :=
  (h (.compare .contains)).symbol rfl

theorem StopsAll.endsWord_append (h : StopsAll rest) (c : Char) (text : List Char) :
    Token.endsWord c (text ++ rest) = Token.endsWord c text := by
  cases text with
  | nil => simp [Token.endsWord, h.head?_ne]
  | cons d text => rfl

theorem StopsAll.splitWord_append (h : StopsAll rest) (text : List Char) :
    splitWord (text ++ rest) = ((splitWord text).1, (splitWord text).2 ++ rest) := by
  induction text with
  | nil =>
    cases rest with
    | nil => rfl
    | cons c tail =>
      have stopped : splitWord (c :: tail) = ([], c :: tail) := by
        rw [splitWord, if_pos (h.endsWord rfl)]
      exact stopped
  | cons c text ih =>
    rw [List.cons_append, splitWord, h.endsWord_append, splitWord]
    split
    · rfl
    · rw [ih]

/-- A phrase is closed by the first quote that can close it, whatever stands behind. -/
theorem readPhrase_append (h : readPhrase text = some (content, after)) (rest : List Char) :
    readPhrase (text ++ rest) = some (content, after ++ rest) := by
  fun_induction readPhrase text generalizing content after with
  | case1 => cases h
  | case2 tail =>
    cases h
    rfl
  | case3 c tail ih =>
    obtain ⟨⟨inner, behind⟩, found, equal⟩ := Option.map_eq_some_iff.1 h
    cases equal
    rw [List.cons_append, List.cons_append, readPhrase, ih found]
    rfl
  | case4 c tail notQuote notPair ih =>
    obtain ⟨⟨inner, behind⟩, found, equal⟩ := Option.map_eq_some_iff.1 h
    cases equal
    rw [List.cons_append, readPhrase, ih found]
    · rfl
    · exact notQuote
    · rintro d tail' rfl tail_eq
      cases tail with
      | nil => cases found
      | cons d tail => exact notPair d tail rfl rfl

theorem readPhrase_eq_none (noQuote : '"' ∉ text) : readPhrase text = none := by
  fun_induction readPhrase text with
  | case1 => rfl
  | case2 tail => exact absurd List.mem_cons_self noQuote
  | case3 c tail ih =>
    rw [ih fun inside ↦ noQuote (List.mem_cons_of_mem _ (List.mem_cons_of_mem _ inside))]
    rfl
  | case4 c tail _ _ ih =>
    rw [ih fun inside ↦ noQuote (List.mem_cons_of_mem _ inside)]
    rfl

/-- A phrase that is not closed can only be closed by a quote. -/
theorem readPhrase_append_eq_none (h : readPhrase text = none) (noQuote : '"' ∉ rest) :
    readPhrase (text ++ rest) = none := by
  fun_induction readPhrase text with
  | case1 => exact readPhrase_eq_none noQuote
  | case2 tail => cases h
  | case3 c tail ih =>
    rw [List.cons_append, List.cons_append, readPhrase, ih (Option.map_eq_none_iff.1 h)]
    rfl
  | case4 c tail notQuote notPair ih =>
    cases tail with
    | nil =>
      -- A backslash at the end of the text is a pair with the first character of the rest.
      apply readPhrase_eq_none
      rw [List.singleton_append, List.mem_cons, not_or]
      exact ⟨fun same ↦ notQuote same.symm, noQuote⟩
    | cons d tail =>
      rw [List.cons_append, readPhrase, ih (Option.map_eq_none_iff.1 h)]
      · rfl
      · exact notQuote
      · rintro e tail' rfl _
        exact notPair d tail rfl rfl

/-- The rest makes no symbol longer. -/
theorem StopsAll.readComparison_append (h : StopsAll rest) (c : Char) (text : List Char) :
    readComparison (c :: (text ++ rest)) =
      (readComparison (c :: text)).map fun (comparison, after) ↦ (comparison, after ++ rest) := by
  cases text with
  | nil =>
    have other := h.head?_ne
    by_cases equals : c = '='
    · subst equals
      cases rest with
      | nil => rfl
      | cons d tail =>
        rw [List.head?_cons, ne_eq, Option.some_inj] at other
        simp [readComparison, other]
    · cases rest with
      | nil => simp [readComparison, equals]
      | cons d tail =>
        rw [List.head?_cons, ne_eq, Option.some_inj] at other
        simp [readComparison, equals, other]
  | cons d text =>
    by_cases follows : d = '='
    · subst follows
      by_cases equals : c = '='
      · subst equals
        rfl
      by_cases bang : c = '!'
      · subst bang
        rfl
      · simp [readComparison, equals, bang]
    · by_cases equals : c = '='
      · subst equals
        simp [readComparison, follows]
      · simp [readComparison, equals, follows]

/-- In front of a text where all tokens stop, a token is read as it is alone. -/
theorem StopsAll.read_append (stops : StopsAll rest) (h : read c text = some (token, after)) :
    read c (text ++ rest) = some (token, after ++ rest) := by
  by_cases left : c = '('
  · rw [read, if_pos left] at h ⊢
    cases h
    rfl
  by_cases right : c = ')'
  · rw [read, if_neg left, if_pos right] at h ⊢
    cases h
    rfl
  by_cases quote : c = '"'
  · rw [read, if_neg left, if_neg right, if_pos quote] at h ⊢
    obtain ⟨⟨content, behind⟩, found, equal⟩ := Option.map_eq_some_iff.1 h
    cases equal
    rw [readPhrase_append found]
    rfl
  · rw [read, if_neg left, if_neg right, if_neg quote] at h ⊢
    rw [stops.readComparison_append, stops.splitWord_append]
    cases found : readComparison (c :: text) with
    | none =>
      rw [found] at h
      cases h
      rfl
    | some symbol =>
      rw [found] at h
      cases h
      rfl

/-- Only an open phrase cannot be read. -/
theorem readPhrase_of_read_eq_none (h : read c text = none) : c = '"' ∧ readPhrase text = none := by
  unfold read at h
  split at h
  · cases h
  split at h
  · cases h
  split at h
  · rename_i quote
    exact ⟨quote, Option.map_eq_none_iff.1 h⟩
  split at h
  · cases h
  · cases h

theorem read_append_eq_none (h : read c text = none) (noQuote : '"' ∉ rest) :
    read c (text ++ rest) = none := by
  obtain ⟨rfl, noEnd⟩ := readPhrase_of_read_eq_none h
  rw [read, if_neg (by decide), if_neg (by decide), if_pos rfl,
    readPhrase_append_eq_none noEnd noQuote]
  rfl

/-- A text has the tokens that it has alone. -/
theorem StopsAll.cutsInto_of_scan (stops : StopsAll rest) (h : scan text = .ok tokens) :
    CutsInto text tokens rest := by
  induction text using scan.induct generalizing tokens with
  | case1 =>
    rw [scan.eq_def] at h
    cases h
    exact cutsInto_space (by simp) _
  | case2 c text blank ih =>
    rw [scan_of_blank blank] at h
    exact (cutsInto_blank blank _).append (ih h)
  | case3 c text visible nothing =>
    rw [scan_of_read_eq_none (Bool.eq_false_iff.2 visible) nothing] at h
    cases h
  | case4 c text visible token after found ih =>
    have seen := Bool.eq_false_iff.2 visible
    obtain ⟨token', after', others, found', scanned, rfl⟩ := exists_read_of_scan seen h
    rw [found] at found'
    cases found'
    have first := scan_of_read seen (stops.read_append found)
    unfold CutsInto
    rw [List.cons_append, first, ih scanned]
    cases scan rest with
    | error => rfl
    | ok => rfl

/-- White space makes no difference behind a text.  If a phrase is open, it is a part of it. -/
theorem scan_append_space (blank : ∀ c ∈ space, isBlank c) (text : List Char) :
    scan (text ++ space) = (scan text).mapError (· ++ space) := by
  have stops := stopsAll_space blank
  have noQuote : '"' ∉ space := fun inside ↦ absurd (blank '"' inside) (by decide)
  induction text using scan.induct with
  | case1 =>
    have cut := cutsInto_space blank []
    unfold CutsInto at cut
    rw [List.append_nil] at cut
    rw [List.nil_append, cut, scan.eq_def]
    rfl
  | case2 c text first ih => rw [List.cons_append, scan_of_blank first, scan_of_blank first, ih]
  | case3 c text visible nothing =>
    have seen := Bool.eq_false_iff.2 visible
    rw [List.cons_append, scan_of_read_eq_none seen (read_append_eq_none nothing noQuote),
      scan_of_read_eq_none seen nothing]
    rfl
  | case4 c text visible token after found ih =>
    have seen := Bool.eq_false_iff.2 visible
    rw [List.cons_append, scan_of_read seen (stops.read_append found), scan_of_read seen found, ih]
    cases scan after with
    | error => rfl
    | ok => rfl

theorem scan_space_append (blank : ∀ c ∈ space, isBlank c) (text : List Char) :
    scan (space ++ text) = scan text := by
  rw [cutsInto_space blank text]
  cases scan text with
  | error => rfl
  | ok => rfl

end RecordSearch.Token

namespace RecordSearch

open Unicode (isBlank)

variable {before after : String}

/-- The blanks around a text are trimmed with its own. -/
theorem Text.trimString_surround (blankBefore : ∀ c ∈ before.toList, isBlank c)
    (blankAfter : ∀ c ∈ after.toList, isBlank c) (text : String) :
    Text.trimString (before ++ text ++ after) = Text.trimString text := by
  simp only [Text.trimString, String.toList_append, List.append_assoc,
    Text.trim_surround blankBefore blankAfter]

/-- A text is read with white space around it if it is read without, and as the same expression. -/
theorem Expression.parse_surround (blankBefore : ∀ c ∈ before.toList, isBlank c)
    (blankAfter : ∀ c ∈ after.toList, isBlank c) (text : String) :
    (parse (before ++ text ++ after)).toOption = (parse text).toOption := by
  have scanned : Token.scan (before ++ text ++ after).toList =
      (Token.scan text.toList).mapError (· ++ after.toList) := by
    rw [String.toList_append, String.toList_append, List.append_assoc,
      Token.scan_space_append blankBefore, Token.scan_append_space blankAfter]
  unfold parse Token.tokenize
  rw [scanned]
  cases Token.scan text.toList with
  | error => rfl
  | ok => rfl

/-- A text is searched for as what it is read as, or as what is left of it when it is trimmed. -/
theorem Interpretation.ofText_eq (text : String) (options : SearchOptions) :
    ofText text options =
      let expression := (Expression.parse text).toOption.getD (.term (Text.trimString text))
      ⟨expression, (Expression.parse text).toOption.isSome,
        Condition.ofExpression options expression⟩ := by
  rw [ofText]
  cases Expression.parse text with
  | error => rfl
  | ok => rfl

/-- The blanks around a text do not change its interpretation. -/
theorem Interpretation.ofText_surround (blankBefore : ∀ c ∈ before.toList, isBlank c)
    (blankAfter : ∀ c ∈ after.toList, isBlank c) (text : String) (options : SearchOptions) :
    ofText (before ++ text ++ after) options = ofText text options := by
  rw [ofText_eq, ofText_eq, Expression.parse_surround blankBefore blankAfter,
    Text.trimString_surround blankBefore blankAfter]

/-- White space around the text of a query changes nothing: neither whether the text follows the
grammar, nor the expression that is searched for, nor what the query matches. -/
theorem Query.isMatch_surround (blankBefore : ∀ c ∈ before.toList, isBlank c)
    (blankAfter : ∀ c ∈ after.toList, isBlank c) (text : String) (options : SearchOptions)
    (delimiter : Char) :
    let bare : Query := ⟨text, options, delimiter⟩
    let surrounded : Query := ⟨before ++ text ++ after, options, delimiter⟩
    surrounded.isGrammatical = bare.isGrammatical ∧ surrounded.expression = bare.expression ∧
      ∀ record, surrounded.isMatch record = bare.isMatch record := by
  intro bare surrounded
  have same : surrounded.interpretation = bare.interpretation :=
    Interpretation.ofText_surround blankBefore blankAfter text options
  refine ⟨?_, ?_, fun record ↦ ?_⟩
  · rw [Query.isGrammatical, same]
    rfl
  · rw [Query.expression, same]
    rfl
  · rw [Query.isMatch, same]
    rfl

/-- A phrase stays open, although a space follows its last backslash. -/
theorem Query.isMatch_surround_open :
    Query.isGrammatical ⟨"\t\u3000x \"y\\ ", { }, ','⟩ = Query.isGrammatical ⟨"x \"y\\", { }, ','⟩ ∧
      Query.expression ⟨"\t\u3000x \"y\\ ", { }, ','⟩ = Query.expression ⟨"x \"y\\", { }, ','⟩ ∧
      ∀ record, Query.isMatch ⟨"\t\u3000x \"y\\ ", { }, ','⟩ record =
        Query.isMatch ⟨"x \"y\\", { }, ','⟩ record := by
  have before : ∀ c ∈ ['\t', '\u3000'], isBlank c :=
    List.forall_mem_cons.2 ⟨by decide, List.forall_mem_singleton.2 (by decide)⟩
  have after : ∀ c ∈ [' '], isBlank c := List.forall_mem_singleton.2 (by decide)
  exact @Query.isMatch_surround "\t\u3000" " " before after "x \"y\\" { } ','

end RecordSearch
