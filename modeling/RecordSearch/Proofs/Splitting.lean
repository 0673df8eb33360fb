import RecordSearch.Proofs.Items

/-!
# Splitting a text into words

The words to highlight can be written in many ways: a character stands as it is, behind a backslash
or inside quotes, and quotes open and close anywhere in a word.  However words are written, they are
read back.

Every other text is split as well, also where a quote stays open or a backslash stands last.  The
words together are the text without what sets them apart and without the signs that escape and
quote.  White space that is neither escaped nor quoted is the only link between what stands on its
two sides: each side is split as if it stood alone.
-/

namespace RecordSearch.Highlight

open Unicode (isBlank)

variable {c : Char} {word words text rest before : List Char} {quoted : Bool}

theorem splitFrom_backslash (c : Char) (rest : List Char) : splitFrom quoted ('\\' :: c :: rest) =
    (c :: (splitFrom quoted rest).1, (splitFrom quoted rest).2) :=
  rfl

theorem splitFrom_quote (rest : List Char) :
    splitFrom quoted ('"' :: rest) = splitFrom (!quoted) rest :=
  rfl

theorem splitFrom_kept (noBackslash : c ≠ '\\') (noQuote : c ≠ '"')
    (inside : isBlank c = true → quoted = true) (rest : List Char) :
    splitFrom quoted (c :: rest) =
      (c :: (splitFrom quoted rest).1, (splitFrom quoted rest).2) := by
  cases quoted with
  | true => exact splitFrom_quoted noBackslash noQuote rest
  | false =>
    have visible : isBlank c = false := Bool.eq_false_iff.2 (mt inside nofun)
    exact splitFrom_visible noBackslash noQuote visible rest

theorem ne_of_isBlank (blank : isBlank c = true) : c ≠ '\\' ∧ c ≠ '"' := by
  constructor
  · rintro rfl
    cases blank
  · rintro rfl
    cases blank

theorem plainWords_eq_addWord (text : List Char) :
    plainWords text = addWord (splitFrom false text).1 (splitFrom false text).2 :=
  rfl

theorem wordsOf_eq (text : String) (caseSensitive : Bool) :
    wordsOf text ⟨caseSensitive, false⟩ = (plainWords text.toList).map String.ofList := by
  rw [wordsOf, if_neg Bool.false_ne_true]

/-- A text is read pair by pair where a backslash escapes, and else character by character. -/
theorem splitFrom_induction {motive : Bool → List Char → Prop}
    (nil : ∀ quoted, motive quoted [])
    (lone : ∀ quoted, motive quoted ['\\'])
    (escaped : ∀ quoted c rest, motive quoted rest → motive quoted ('\\' :: c :: rest))
    (quote : ∀ quoted rest, motive (!quoted) rest → motive quoted ('"' :: rest))
    (gap : ∀ c rest, isBlank c = true → motive false rest → motive false (c :: rest))
    (kept : ∀ quoted c rest, c ≠ '\\' → c ≠ '"' → (isBlank c = true → quoted = true) →
      motive quoted rest → motive quoted (c :: rest))
    (quoted : Bool) (text : List Char) : motive quoted text := by
  induction quoted, text using splitFrom.induct with
  | case1 quoted => exact nil quoted
  | case2 quoted => exact lone quoted
  | case3 quoted c rest _ _ _ ih => exact escaped quoted c rest ih
  | case4 quoted rest ih => exact quote quoted rest ih
  | case5 quoted c rest _ _ _ _ _ _ outside ih =>
    rw [Bool.and_eq_true, Bool.not_eq_true'] at outside
    obtain ⟨blank, rfl⟩ := outside
    exact gap c rest blank ih
  | case6 quoted c rest notLone notPair notQuote _ _ _ notOutside ih =>
    have noBackslash : c ≠ '\\' := by
      intro same
      cases rest with
      | nil => exact notLone same rfl
      | cons next rest => exact notPair next rest same rfl
    refine kept quoted c rest noBackslash notQuote (fun blank ↦ ?_) ih
    simpa [blank] using notOutside

/-! ## Written words -/

/-- The ways of writing what is left of a word, from outside or inside quotes.  At its end a word is
outside. -/
inductive Spells : Bool → List Char → List Char → Prop
  | nil : Spells false [] []
  | plain {quoted : Bool} {c : Char} {word text : List Char} (noBackslash : c ≠ '\\')
    (noQuote : c ≠ '"') (inside : isBlank c = true → quoted = true)
    (there : Spells quoted word text) : Spells quoted (c :: word) (c :: text)
  | escaped {quoted : Bool} (c : Char) {word text : List Char} (there : Spells quoted word text) :
    Spells quoted (c :: word) ('\\' :: c :: text)
  | quote {quoted : Bool} {word text : List Char} (there : Spells (!quoted) word text) :
    Spells quoted word ('"' :: text)

/-- The ways of writing words one after the other, with white space between them and perhaps behind
the last one. -/
inductive SpellsAll : List (List Char) → List Char → Prop
  | nil : SpellsAll [] []
  | cons {word : List Char} {words : List (List Char)} {written space text : List Char}
    (here : Spells false word written) (blank : ∀ c ∈ space, isBlank c = true)
    (apart : words ≠ [] → space ≠ []) (there : SpellsAll words text) :
    SpellsAll (word :: words) (written ++ (space ++ text))

/-- A word can always be written with each of its characters escaped. -/
theorem spells_escaped (word : List Char) :
    Spells false word (word.flatMap fun c ↦ ['\\', c]) := by
  induction word with
  | nil => exact .nil
  | cons c word ih => exact .escaped c ih

/-- All words can be spelled. -/
theorem exists_spellsAll (words : List (List Char)) : ∃ text, SpellsAll words text := by
  induction words with
  | nil => exact ⟨[], .nil⟩
  | cons word words ih =>
    obtain ⟨text, there⟩ := ih
    have blank : ∀ c ∈ [' '], isBlank c = true := List.forall_mem_singleton.2 (by decide)
    exact ⟨_, .cons (spells_escaped word) blank (fun _ ↦ List.cons_ne_nil _ _) there⟩

/-- A written word gives its characters to the word that it is part of. -/
theorem Spells.splitFrom_eq {written : List Char} (h : Spells quoted word written)
    (rest : List Char) :
    splitFrom quoted (written ++ rest) =
      (word ++ (splitFrom false rest).1, (splitFrom false rest).2) := by
  induction h with
  | nil => rfl
  | plain noBackslash noQuote inside _ ih =>
    rw [List.cons_append, splitFrom_kept noBackslash noQuote inside, ih]
    rfl
  | escaped c _ ih =>
    rw [List.cons_append, List.cons_append, splitFrom_backslash, ih]
    rfl
  | quote _ ih => rw [List.cons_append, splitFrom_quote, ih]

theorem addWord_of_ne_nil (nonempty : word ≠ []) (words : List (List Char)) :
    addWord word words = word :: words := by
  rw [addWord, if_neg (mt List.isEmpty_iff.1 nonempty)]

/-- A text that spells words is split into them, if none is empty. -/
theorem SpellsAll.plainWords_eq {words : List (List Char)} (h : SpellsAll words text)
    (nonempty : ∀ word ∈ words, word ≠ []) : plainWords text = words := by
  induction h with
  | nil => rfl
  | @cons word words written space text here blank apart there ih =>
    obtain ⟨first, others⟩ := List.forall_mem_cons.1 nonempty
    have behind : splitFrom false (space ++ text) = ([], words) := by
      by_cases joined : space = []
      · -- Nothing stands behind the last word.
        obtain rfl : words = [] := by
          cases words with
          | nil => rfl
          | cons next words => exact absurd joined (apart (List.cons_ne_nil next words))
        cases there
        rw [joined]
        rfl
      · rw [splitFrom_space blank joined, ih others]
    rw [plainWords, here.splitFrom_eq, behind, List.append_nil]
    exact addWord_of_ne_nil first words

/-- Words that are not empty can be written, and however they are written they are read back. -/
theorem wordsOf_spelled (words : List String) (nonempty : ∀ word ∈ words, word ≠ "")
    (caseSensitive : Bool) :
    (∃ text, SpellsAll (words.map String.toList) text) ∧
      ∀ space text, (∀ c ∈ space, isBlank c = true) →
        SpellsAll (words.map String.toList) text →
          wordsOf (String.ofList (space ++ text)) ⟨caseSensitive, false⟩ = words := by
  refine ⟨exists_spellsAll _, fun space text blank spelled ↦ ?_⟩
  have lists_nonempty : ∀ list ∈ words.map String.toList, list ≠ [] := by
    intro list member
    obtain ⟨word, wordMember, rfl⟩ := List.mem_map.1 member
    exact mt String.toList_eq_nil_iff.1 (nonempty word wordMember)
  have split_eq : plainWords (space ++ text) = words.map String.toList := by
    rw [plainWords_space blank, spelled.plainWords_eq lists_nonempty]
  calc
    wordsOf (String.ofList (space ++ text)) ⟨caseSensitive, false⟩ =
        (plainWords (space ++ text)).map String.ofList := by
      rw [wordsOf_eq, String.toList_ofList]
    _ = words.map (String.ofList ∘ String.toList) := by rw [split_eq, List.map_map]
    _ = words := by simp [Function.comp_def]

/-- Quotes open in the middle of a word, close at once or hold nothing but a backslash. -/
theorem wordsOf_spelled_quotes :
    (∀ word ∈ ["a b", "\"c", "\\"], word ≠ "") ∧
      SpellsAll (["a b", "\"c", "\\"].map String.toList) "a\" \"b\"\"\t\\\"c\u3000\"\\\\\"".toList ∧
      wordsOf " a\" \"b\"\"\t\\\"c\u3000\"\\\\\"" ⟨true, false⟩ = ["a b", "\"c", "\\"] := by
  have nonempty : ∀ word ∈ ["a b", "\"c", "\\"], word ≠ "" := by decide
  have first : Spells false "a b".toList "a\" \"b\"\"".toList :=
    .plain (by decide) (by decide) (by decide) (.quote (.plain (by decide) (by decide) (by decide)
      (.quote (.plain (by decide) (by decide) (by decide) (.quote (.quote .nil))))))
  have second : Spells false "\"c".toList "\\\"c".toList :=
    .escaped '"' (.plain (by decide) (by decide) (by decide) .nil)
  have third : Spells false "\\".toList "\"\\\\\"".toList := .quote (.escaped '\\' (.quote .nil))
  have tab : ∀ c ∈ ['\t'], isBlank c = true := List.forall_mem_singleton.2 (by decide)
  have ideographic : ∀ c ∈ ['\u3000'], isBlank c = true := List.forall_mem_singleton.2 (by decide)
  have space : ∀ c ∈ [' '], isBlank c = true := List.forall_mem_singleton.2 (by decide)
  have nothing : ∀ c ∈ [], isBlank c = true := List.forall_mem_nil _
  have spelled : SpellsAll (["a b", "\"c", "\\"].map String.toList)
      "a\" \"b\"\"\t\\\"c\u3000\"\\\\\"".toList :=
    .cons first tab (fun _ ↦ List.cons_ne_nil _ _) (.cons second ideographic
      (fun _ ↦ List.cons_ne_nil _ _) (.cons third nothing (absurd rfl) .nil))
  exact ⟨nonempty, spelled, (wordsOf_spelled _ nonempty true).2 [' '] _ space spelled⟩

/-! ## What is left out -/

/-- A character behind these, nearest first, is escaped: an odd number of backslashes stands right
before it. -/
def isEscaped (before : List Char) : Bool := (before.takeWhile (· == '\\')).length % 2 == 1

/-- A character behind these, nearest first, is inside quotes: an odd number of quotes that are not
escaped stands before it. -/
def isQuoted : List Char → Bool
  | [] => false
  | c :: before => if c == '"' && !isEscaped before then !isQuoted before else isQuoted before

/-- The character between these belongs to no word.  It is a backslash that escapes what is behind
it, a quote that is not escaped, or white space that is neither escaped nor quoted. -/
def isLeftOut (before : List Char) (c : Char) (after : List Char) : Bool :=
  !isEscaped before &&
    (c == '\\' && !after.isEmpty || c == '"' || isBlank c && !isQuoted before)

/-- The characters of a text behind `before`, which is read backwards, that belong to words. -/
def keptFrom (before : List Char) : List Char → List Char
  | [] => []
  | c :: after =>
    if isLeftOut before c after then keptFrom (c :: before) after
    else c :: keptFrom (c :: before) after

/-- What comes behind these is not escaped, and it is inside quotes or not. -/
structure Leads (before : List Char) (quoted : Bool) : Prop where
  notEscaped : isEscaped before = false
  isQuoted_eq : isQuoted before = quoted

theorem isEscaped_backslash (before : List Char) :
    isEscaped ('\\' :: before) = !isEscaped before := by
  have longer : ('\\' :: before).takeWhile (· == '\\') =
      '\\' :: before.takeWhile (· == '\\') := rfl
  rw [isEscaped, isEscaped, longer, List.length_cons, Bool.eq_iff_iff, Bool.not_eq_true',
    beq_iff_eq, beq_eq_false_iff_ne]
  omega

theorem isEscaped_cons (noBackslash : c ≠ '\\') (before : List Char) :
    isEscaped (c :: before) = false := by
  have ended : (c :: before).takeWhile (· == '\\') = [] :=
    List.takeWhile_cons_of_neg (by simpa using noBackslash)
  rw [isEscaped, ended]
  rfl

theorem isQuoted_cons (noQuote : c ≠ '"') (before : List Char) :
    isQuoted (c :: before) = isQuoted before := by
  rw [isQuoted, beq_false_of_ne noQuote, Bool.false_and, if_neg Bool.false_ne_true]

theorem isQuoted_of_isEscaped (escaped : isEscaped before = true) (c : Char) :
    isQuoted (c :: before) = isQuoted before := by
  rw [isQuoted, escaped, Bool.not_true, Bool.and_false, if_neg Bool.false_ne_true]

namespace Leads

theorem nil : Leads [] false := ⟨rfl, rfl⟩

/-- A backslash escapes what is behind it. -/
theorem isEscaped_backslash (h : Leads before quoted) : isEscaped ('\\' :: before) = true := by
  rw [Highlight.isEscaped_backslash, h.notEscaped, Bool.not_false]

/-- An escaped character changes nothing. -/
theorem escaped (h : Leads before quoted) (c : Char) : Leads (c :: '\\' :: before) quoted where
  notEscaped := by
    by_cases backslash : c = '\\'
    · rw [backslash, Highlight.isEscaped_backslash, h.isEscaped_backslash, Bool.not_true]
    · exact isEscaped_cons backslash _
  isQuoted_eq := by
    rw [isQuoted_of_isEscaped h.isEscaped_backslash, isQuoted_cons (by decide), h.isQuoted_eq]

theorem quote (h : Leads before quoted) : Leads ('"' :: before) (!quoted) where
  notEscaped := isEscaped_cons (by decide) before
  isQuoted_eq := by
    rw [isQuoted, h.notEscaped, h.isQuoted_eq]
    rfl

theorem plain (h : Leads before quoted) (noBackslash : c ≠ '\\') (noQuote : c ≠ '"') :
    Leads (c :: before) quoted where
  notEscaped := isEscaped_cons noBackslash before
  isQuoted_eq := by rw [isQuoted_cons noQuote, h.isQuoted_eq]

/-- Behind characters that are read, the character and the quotes tell whether it is left out. -/
theorem isLeftOut_eq (h : Leads before quoted) (c : Char) (after : List Char) :
    isLeftOut before c after =
      (c == '\\' && !after.isEmpty || c == '"' || isBlank c && !quoted) := by
  rw [isLeftOut, h.notEscaped, h.isQuoted_eq, Bool.not_false, Bool.true_and]

end Leads

theorem keptFrom_of_isLeftOut (out : isLeftOut before c rest = true) :
    keptFrom before (c :: rest) = keptFrom (c :: before) rest := by
  rw [keptFrom, if_pos out]

theorem keptFrom_of_not_isLeftOut (stays : isLeftOut before c rest = false) :
    keptFrom before (c :: rest) = c :: keptFrom (c :: before) rest := by
  rw [keptFrom, stays, if_neg Bool.false_ne_true]

theorem flatten_addWord (word : List Char) (words : List (List Char)) :
    (addWord word words).flatten = word ++ words.flatten := by
  unfold addWord
  split
  · rename_i empty
    rw [List.isEmpty_iff.1 empty, List.nil_append]
  · rw [List.flatten_cons]

/-- The invariant is what the characters read so far lead to. -/
theorem flatten_splitFrom (quoted : Bool) (text : List Char) : ∀ before, Leads before quoted →
    (splitFrom quoted text).1 ++ (splitFrom quoted text).2.flatten = keptFrom before text := by
  induction quoted, text using splitFrom_induction with
  | nil quoted => exact fun _ _ ↦ rfl
  | lone quoted =>
    intro before leads
    have stays : isLeftOut before '\\' [] = false := by
      rw [leads.isLeftOut_eq]
      rfl
    rw [keptFrom_of_not_isLeftOut stays]
    rfl
  | escaped quoted c rest ih =>
    intro before leads
    have out : isLeftOut before '\\' (c :: rest) = true := by
      rw [leads.isLeftOut_eq]
      rfl
    have stays : isLeftOut ('\\' :: before) c rest = false := by
      rw [isLeftOut, leads.isEscaped_backslash, Bool.not_true, Bool.false_and]
    rw [splitFrom_backslash, keptFrom_of_isLeftOut out, keptFrom_of_not_isLeftOut stays,
      ← ih _ (leads.escaped c), List.cons_append]
  | quote quoted rest ih =>
    intro before leads
    have out : isLeftOut before '"' rest = true := by
      rw [leads.isLeftOut_eq]
      rfl
    rw [splitFrom_quote, keptFrom_of_isLeftOut out, ih _ leads.quote]
  | gap c rest blank ih =>
    intro before leads
    obtain ⟨noBackslash, noQuote⟩ := ne_of_isBlank blank
    have out : isLeftOut before c rest = true := by
      rw [leads.isLeftOut_eq, blank, Bool.not_false, Bool.and_true, Bool.or_true]
    rw [splitFrom_blank blank, keptFrom_of_isLeftOut out, ← ih _ (leads.plain noBackslash noQuote),
      List.nil_append, plainWords_eq_addWord, flatten_addWord]
  | kept quoted c rest noBackslash noQuote inside ih =>
    intro before leads
    have notOutside : (isBlank c && !quoted) = false := by
      rw [Bool.and_eq_false_imp, Bool.not_eq_false']
      exact inside
    have stays : isLeftOut before c rest = false := by
      rw [leads.isLeftOut_eq, beq_false_of_ne noBackslash, beq_false_of_ne noQuote, notOutside]
      rfl
    rw [splitFrom_kept noBackslash noQuote inside, keptFrom_of_not_isLeftOut stays,
      ← ih _ (leads.plain noBackslash noQuote), List.cons_append]

theorem ne_nil_of_mem_addWord {words : List (List Char)} (h : ∀ word ∈ words, word ≠ [])
    (added : List Char) : ∀ word ∈ addWord added words, word ≠ [] := by
  unfold addWord
  split
  · exact h
  · rename_i nonempty
    exact List.forall_mem_cons.2 ⟨mt List.isEmpty_iff.2 nonempty, h⟩

theorem ne_nil_of_mem_splitFrom (quoted : Bool) (text : List Char) :
    ∀ word ∈ (splitFrom quoted text).2, word ≠ [] := by
  induction quoted, text using splitFrom_induction with
  | nil | lone => exact nofun
  | escaped quoted c rest ih => exact ih
  | quote quoted rest ih => exact ih
  | gap c rest blank ih =>
    rw [splitFrom_blank blank]
    exact ne_nil_of_mem_addWord ih _
  | kept quoted c rest noBackslash noQuote inside ih =>
    rw [splitFrom_kept noBackslash noQuote inside]
    exact ih

theorem addWord_append (word : List Char) (words more : List (List Char)) :
    addWord word (words ++ more) = addWord word words ++ more := by
  unfold addWord
  split
  · rfl
  · rw [List.cons_append]

/-- Behind a text that ends outside quotes and with nothing to escape, words go on that begin
anew. -/
theorem splitFrom_append {rest : List Char} {more : List (List Char)}
    (apart : splitFrom false rest = ([], more)) (quoted : Bool) (text : List Char) :
    ∀ before, Leads before quoted → Leads (text.reverse ++ before) false →
      splitFrom quoted (text ++ rest) =
        ((splitFrom quoted text).1, (splitFrom quoted text).2 ++ more) := by
  induction quoted, text using splitFrom_induction with
  | nil quoted =>
    intro before leads ended
    obtain rfl : quoted = false := leads.isQuoted_eq.symm.trans ended.isQuoted_eq
    exact apart
  | lone quoted =>
    intro before leads ended
    have escaped := leads.isEscaped_backslash
    cases escaped.symm.trans ended.notEscaped
  | escaped quoted c rest ih =>
    intro before leads ended
    rw [List.cons_append, List.cons_append, splitFrom_backslash, ih _ (leads.escaped c)]
    · rfl
    · simpa using ended
  | quote quoted rest ih =>
    intro before leads ended
    rw [List.cons_append, splitFrom_quote, ih _ leads.quote]
    · rfl
    · simpa using ended
  | gap c text blank ih =>
    intro before leads ended
    obtain ⟨noBackslash, noQuote⟩ := ne_of_isBlank blank
    rw [List.cons_append, splitFrom_blank blank, splitFrom_blank blank, plainWords_eq_addWord,
      ih _ (leads.plain noBackslash noQuote), addWord_append]
    · rfl
    · simpa using ended
  | kept quoted c text noBackslash noQuote inside ih =>
    intro before leads ended
    rw [List.cons_append, splitFrom_kept noBackslash noQuote inside,
      splitFrom_kept noBackslash noQuote inside, ih _ (leads.plain noBackslash noQuote)]
    simpa using ended

/-- The text ends outside quotes, and a character behind it is not escaped. -/
def IsSettled (text : List Char) : Prop := Leads text.reverse false

/-- Behind a settled text and a blank the words begin anew. -/
theorem plainWords_append {space : List Char} (settled : IsSettled before)
    (blank : ∀ c ∈ space, isBlank c = true) (apart : space ≠ []) (after : List Char) :
    plainWords (before ++ (space ++ after)) = plainWords before ++ plainWords after := by
  have behind := splitFrom_space blank apart after
  have ended : Leads (before.reverse ++ []) false := by
    rw [List.append_nil]
    exact settled
  rw [plainWords_eq_addWord, splitFrom_append behind false before [] .nil ended, addWord_append,
    ← plainWords_eq_addWord]

/-- No word of a text is empty, and the words together are what is left of the text without the
backslashes that escape, the quotes that are not escaped and the white space that is neither escaped
nor quoted.  Where such white space divides a text, the words are those of its two sides. -/
theorem wordsOf_plain (caseSensitive : Bool) :
    (∀ text : String, (∀ word ∈ wordsOf text ⟨caseSensitive, false⟩, word ≠ "") ∧
      (String.join (wordsOf text ⟨caseSensitive, false⟩)).toList = keptFrom [] text.toList) ∧
    ∀ before space after : String, IsSettled before.toList → space ≠ "" →
      (∀ c ∈ space.toList, isBlank c = true) →
        wordsOf (before ++ space ++ after) ⟨caseSensitive, false⟩ =
          wordsOf before ⟨caseSensitive, false⟩ ++ wordsOf after ⟨caseSensitive, false⟩ := by
  refine ⟨fun text ↦ ⟨?_, ?_⟩, ?_⟩
  · rw [wordsOf_eq, List.forall_mem_map]
    intro word member
    have nonempty := ne_nil_of_mem_addWord (ne_nil_of_mem_splitFrom false text.toList) _ word member
    simpa using nonempty
  · calc
      (String.join (wordsOf text ⟨caseSensitive, false⟩)).toList =
          (plainWords text.toList).flatten := by
        rw [wordsOf_eq, String.toList_join, List.flatMap_map]
        simp [List.flatMap_def]
      _ = (splitFrom false text.toList).1 ++ (splitFrom false text.toList).2.flatten := by
        rw [plainWords_eq_addWord, flatten_addWord]
      _ = keptFrom [] text.toList := flatten_splitFrom false text.toList [] .nil
  · intro before space after settled apart blank
    have nonempty : space.toList ≠ [] := mt String.toList_eq_nil_iff.1 apart
    have text_eq : (before ++ space ++ after).toList =
        before.toList ++ (space.toList ++ after.toList) := by
      rw [String.toList_append, String.toList_append, List.append_assoc]
    rw [wordsOf_eq, wordsOf_eq, wordsOf_eq, text_eq, plainWords_append settled blank nonempty,
      List.map_append]

/-- An escaped quote stands on one side of the space, and a quote that is never closed and a last
backslash on the other. -/
theorem wordsOf_plain_open :
    IsSettled "\\\"a \"b c\"".toList ∧ "\u3000" ≠ "" ∧ (∀ c ∈ "\u3000".toList, isBlank c = true) ∧
      wordsOf ("\\\"a \"b c\"" ++ "\u3000" ++ "\"\" d\\ \"e \\") ⟨false, false⟩ =
        ["\"a", "b c"] ++ ["d e \\"] := by
  have settled : IsSettled "\\\"a \"b c\"".toList := ⟨by decide, by decide⟩
  have blank : ∀ c ∈ "\u3000".toList, isBlank c = true := List.forall_mem_singleton.2 (by decide)
  have first : wordsOf "\\\"a \"b c\"" ⟨false, false⟩ = ["\"a", "b c"] := by decide +kernel
  have second : wordsOf "\"\" d\\ \"e \\" ⟨false, false⟩ = ["d e \\"] := by decide +kernel
  have split := (wordsOf_plain false).2 _ "\u3000" "\"\" d\\ \"e \\" settled (by decide) blank
  rw [first, second] at split
  exact ⟨settled, by decide, blank, split⟩

end RecordSearch.Highlight
