import RecordSearch.Proofs.Highlighting

/-!
# Reading patterns back

The written form of a plain pattern says which words it stands for.  The two dialects differ in how
they keep characters from their meaning; once that is read, a pattern is a sequence of groups with
bars between them.  So both written forms give back the words that the pattern searches for.
-/

namespace RecordSearch.Highlight

open Regex (intercalate_cons)

variable {c : Char} {text : List Char} {dialect : Dialect}

/-- What is left of a written pattern when its quoting is read. -/
inductive Sign
  | literal (c : Char)
  | openGroup
  | closeGroup
  | bar
deriving Repr, DecidableEq

def unquoted (c : Char) : Sign :=
  if c = '(' then .openGroup
  else if c = ')' then .closeGroup
  else if c = '|' then .bar
  else .literal c

/-- Reads a text with block quotes.  The first argument says whether the text begins in a block. -/
def readBlocks : Bool → List Char → List Sign
  | _, [] => []
  | true, '\\' :: 'E' :: rest => readBlocks false rest
  | true, c :: rest => .literal c :: readBlocks true rest
  | false, '\\' :: 'Q' :: rest => readBlocks true rest
  | false, '\\' :: '\\' :: rest => .literal '\\' :: readBlocks false rest
  | false, c :: rest => unquoted c :: readBlocks false rest

/-- Reads a text in which a backslash keeps the next character from its meaning. -/
def readEscapes : List Char → List Sign
  | [] => []
  | '\\' :: c :: rest => .literal c :: readEscapes rest
  | c :: rest => unquoted c :: readEscapes rest

def Dialect.signs : Dialect → List Char → List Sign
  | blockQuotes => readBlocks false
  | escapes => readEscapes

/-- Inside a group: the rest of its word, and the words of the groups behind it. -/
def wordsFrom : List Sign → Option (List Char × List (List Char))
  | .literal c :: rest => (wordsFrom rest).map fun (word, words) ↦ (c :: word, words)
  | [.closeGroup] => some ([], [])
  | .closeGroup :: .bar :: .openGroup :: rest =>
    (wordsFrom rest).map fun (word, words) ↦ ([], word :: words)
  | _ => none

/-- The words of a written pattern that is a sequence of groups with bars between them. -/
def Dialect.words? (dialect : Dialect) (text : List Char) : Option (List (List Char)) :=
  match dialect.signs text with
  | .openGroup :: rest => (wordsFrom rest).map fun (word, words) ↦ word :: words
  | _ => none

theorem signs_unquoted (dialect : Dialect) (h : c ≠ '\\') (text : List Char) :
    dialect.signs (c :: text) = unquoted c :: dialect.signs text := by
  cases dialect with
  | blockQuotes =>
    rw [Dialect.signs, readBlocks]
    · rintro rest rfl
      exact absurd rfl h
    · rintro rest rfl
      exact absurd rfl h
  | escapes =>
    rw [Dialect.signs, readEscapes]
    rintro d rest rfl
    exact absurd rfl h

theorem readBlocks_literal (h : c = '\\' → text.head? ≠ some 'E') :
    readBlocks true (c :: text) = .literal c :: readBlocks true text := by
  rw [readBlocks]
  rintro rest rfl rfl
  exact h rfl rfl

/-- The characters with a meaning in a written pattern are among those that are escaped. -/
theorem readEscapes_escape? (c : Char) (text : List Char) :
    readEscapes ((escape? c).getD [c] ++ text) = .literal c :: readEscapes text := by
  unfold escape?
  split
  · rfl
  · rename_i plain
    have other : ∀ d ∈ specialCharacters, c ≠ d := by
      rintro d member rfl
      exact plain (List.contains_iff_mem.2 member)
    have meaning : unquoted c = .literal c := by
      rw [unquoted, if_neg (other '(' (by decide)), if_neg (other ')' (by decide)),
        if_neg (other '|' (by decide))]
    rw [← meaning]
    exact signs_unquoted .escapes (other '\\' (by decide)) text

theorem head?_splitBlocks (word : List Char) : (splitBlocks word).head? = word.head? := by
  fun_cases splitBlocks word with
  | case1 rest => rfl
  | case2 c rest => rfl
  | case3 => rfl

/-- No `\E` of a word ends its block, and none arises where the word meets the quotes. -/
theorem readBlocks_splitBlocks (word rest : List Char) :
    readBlocks true (splitBlocks word ++ '\\' :: 'E' :: rest) =
      word.map .literal ++ readBlocks false rest := by
  fun_induction splitBlocks word with
  | case1 word ih =>
    -- The block ends before the `\E` of the word and begins again behind it.
    exact congrArg (Sign.literal '\\' :: Sign.literal 'E' :: ·) ih
  | case2 c word notEnd ih =>
    have follows : c = '\\' → (splitBlocks word ++ '\\' :: 'E' :: rest).head? ≠ some 'E' := by
      rintro rfl
      rw [List.head?_append, head?_splitBlocks]
      cases word with
      | nil => simp
      | cons d word =>
        rw [List.head?_cons, Option.some_or, ne_eq, Option.some_inj]
        rintro rfl
        exact notEnd word rfl rfl
    rw [List.cons_append, readBlocks_literal follows, ih]
    rfl
  | case3 => rfl

example : readBlocks true (splitBlocks ['\\', '\\', 'E'] ++ ['\\', 'E']) =
    [.literal '\\', .literal '\\', .literal 'E'] := by
  decide

/-- An escaped word is read back as its own characters. -/
theorem readEscapes_escape (word rest : List Char) :
    readEscapes (escape word ++ rest) = word.map .literal ++ readEscapes rest := by
  induction word with
  | nil => rfl
  | cons c word ih =>
    rw [escape, List.flatMap_cons, List.append_assoc, readEscapes_escape?, ← escape, ih]
    rfl

/-- A quoted word is read as its characters, whatever stands behind it. -/
theorem signs_quote (dialect : Dialect) (word rest : List Char) :
    dialect.signs (dialect.quote word ++ rest) = word.map .literal ++ dialect.signs rest := by
  cases dialect with
  | escapes => exact readEscapes_escape word rest
  | blockQuotes =>
    have written : blockQuote word ++ rest =
        '\\' :: 'Q' :: (splitBlocks word ++ '\\' :: 'E' :: rest) := by
      simp [blockQuote]
    calc
      readBlocks false (blockQuote word ++ rest) =
          readBlocks true (splitBlocks word ++ '\\' :: 'E' :: rest) := by
        rw [written, readBlocks]
      _ = word.map .literal ++ readBlocks false rest := readBlocks_splitBlocks word rest

def groupSigns (word : List Char) : List Sign :=
  .openGroup :: (word.map .literal ++ [.closeGroup])

theorem signs_group (dialect : Dialect) (word rest : List Char) :
    dialect.signs ('(' :: dialect.quote word ++ [')'] ++ rest) =
      groupSigns word ++ dialect.signs rest := by
  have closed : dialect.signs (')' :: rest) = .closeGroup :: dialect.signs rest :=
    signs_unquoted dialect (by decide) rest
  calc
    dialect.signs ('(' :: dialect.quote word ++ [')'] ++ rest) =
        .openGroup :: dialect.signs (dialect.quote word ++ ')' :: rest) := by
      rw [List.append_assoc, List.cons_append, signs_unquoted dialect (by decide)]
      rfl
    _ = groupSigns word ++ dialect.signs rest := by
      rw [signs_quote, closed, groupSigns, List.cons_append, List.append_assoc]
      rfl

theorem signs_barred (dialect : Dialect) (words : List (List Char)) :
    dialect.signs (words.flatMap fun word ↦ ['|'] ++ ('(' :: dialect.quote word ++ [')'])) =
      words.flatMap (.bar :: groupSigns ·) := by
  induction words with
  | nil =>
    cases dialect with
    | blockQuotes => rfl
    | escapes => rfl
  | cons word words ih =>
    rw [List.flatMap_cons, List.flatMap_cons, List.append_assoc, List.singleton_append,
      signs_unquoted dialect (by decide), signs_group, ih]
    rfl

/-- The source of an alternation is read as one group for each word, with bars between. -/
theorem signs_writeGroups (dialect : Dialect) (first : List Char) (rest : List (List Char)) :
    dialect.signs (writeGroups ((first :: rest).map dialect.quote)) =
      groupSigns first ++ rest.flatMap (.bar :: groupSigns ·) := by
  have written : writeGroups ((first :: rest).map dialect.quote) =
      '(' :: dialect.quote first ++ [')'] ++
        rest.flatMap fun word ↦ ['|'] ++ ('(' :: dialect.quote word ++ [')']) := by
    unfold writeGroups
    rw [List.map_cons, List.map_cons, intercalate_cons, List.map_map, List.flatMap_map]
    rfl
  rw [written, signs_group, signs_barred]

theorem wordsFrom_literals (word : List Char) (signs : List Sign) :
    wordsFrom (word.map .literal ++ signs) =
      (wordsFrom signs).map fun (more, words) ↦ (word ++ more, words) := by
  induction word with
  | nil => exact Option.map_id'.symm
  | cons c word ih =>
    rw [List.map_cons, List.cons_append, wordsFrom, ih, Option.map_map]
    rfl

theorem wordsFrom_groups (first : List Char) (rest : List (List Char)) :
    wordsFrom (first.map .literal ++ .closeGroup :: rest.flatMap (.bar :: groupSigns ·)) =
      some (first, rest) := by
  have behind : wordsFrom (.closeGroup :: rest.flatMap (.bar :: groupSigns ·)) =
      some ([], rest) := by
    induction rest with
    | nil => rfl
    | cons second rest ih =>
      rw [List.flatMap_cons, groupSigns, List.cons_append, List.cons_append, wordsFrom,
        List.append_assoc, List.singleton_append, wordsFrom_literals, ih]
      simp
  rw [wordsFrom_literals, behind]
  simp

/-- A written pattern gives its words back. -/
theorem words?_writeGroups (dialect : Dialect) (first : List Char) (rest : List (List Char)) :
    dialect.words? (writeGroups ((first :: rest).map dialect.quote)) = some (first :: rest) := by
  have opened : groupSigns first ++ rest.flatMap (.bar :: groupSigns ·) =
      .openGroup :: (first.map .literal ++ .closeGroup :: rest.flatMap (.bar :: groupSigns ·)) := by
    simp [groupSigns]
  rw [Dialect.words?, signs_writeGroups, opened]
  dsimp only
  rw [wordsFrom_groups, Option.map_some]

variable {words : List String} {options : SearchOptions} {pattern : Alternation}

/-- The words are read back from the source that was made of them. -/
theorem words?_source (plain : options.regularExpression = false)
    (h : Alternation.ofWords? words options dialect = some pattern) :
    dialect.words? pattern.source.toList = some (words.map String.toList) := by
  cases words with
  | nil => cases h
  | cons first rest =>
    cases h
    dsimp only
    rw [plain, String.toList_ofList]
    exact words?_writeGroups dialect first.toList (rest.map String.toList)

/-- The source of a plain pattern is read back, in both dialects, as the words that it was made of,
and these are the words that its ranges are found with.  So no other words have the same source. -/
theorem ofWords?_source (nonempty : words ≠ []) (caseSensitive : Bool) (dialect : Dialect) :
    ∃ pattern, Alternation.ofWords? words ⟨caseSensitive, false⟩ dialect = some pattern ∧
      dialect.words? pattern.source.toList = some (words.map String.toList) ∧
      (∀ text : String, pattern.ranges text =
        scanRanges caseSensitive (words.map String.toList) 0 text.toList) ∧
      ∀ otherWords otherCase other,
        Alternation.ofWords? otherWords ⟨otherCase, false⟩ dialect = some other →
          other.source = pattern.source → otherWords = words := by
  obtain ⟨first, rest, rfl⟩ := List.exists_cons_of_ne_nil nonempty
  obtain ⟨pattern, pattern_eq, native⟩ := ofWords?_cons first rest caseSensitive dialect
  have source_words := words?_source rfl pattern_eq
  refine ⟨pattern, pattern_eq, source_words, fun text ↦ ?_, ?_⟩
  · rw [Alternation.ranges, native]
    exact matchesFrom_eq_scanRanges first.toList (rest.map String.toList) 0
  · intro otherWords otherCase other other_eq same
    have other_words := words?_source rfl other_eq
    rw [same, source_words, Option.some_inj] at other_words
    exact (List.map_inj_right fun _ _ ↦ String.toList_inj.1).1 other_words.symm

/-- Words with both ends of a block, a backslash at the end, and signs of groups. -/
theorem ofWords?_source_backslashes :
    ∃ pattern, Alternation.ofWords? ["a\\", "\\\\E)|(\\Q", "", "/"] ⟨true, false⟩ .blockQuotes =
        some pattern ∧
      Dialect.blockQuotes.words? pattern.source.toList =
        some (["a\\", "\\\\E)|(\\Q", "", "/"].map String.toList) ∧
      (∀ text : String, pattern.ranges text =
        scanRanges true (["a\\", "\\\\E)|(\\Q", "", "/"].map String.toList) 0 text.toList) ∧
      ∀ otherWords otherCase other,
        Alternation.ofWords? otherWords ⟨otherCase, false⟩ .blockQuotes = some other →
          other.source = pattern.source → otherWords = ["a\\", "\\\\E)|(\\Q", "", "/"] :=
  ofWords?_source (by decide) true .blockQuotes

end RecordSearch.Highlight
