import RecordSearch.Proofs.Highlighting
import RecordSearch.Proofs.Items
import RecordSearch.Proofs.Meaning

/-!
# What is found can be highlighted

A query of words and phrases finds an entry if each of its words stands somewhere in the type, in a
field or in a keyword of the entry.  Highlighting looks for the same words in the type and in the
fields only, with patterns that fold case where the search takes lower case.  The two agree where
case matters and where all characters are ASCII: keywords are parts of a field, and ASCII letters
are folded to lower case.
-/

namespace RecordSearch

open Regex (isAscii sameCharacter standsAt)
open Unicode (isBlank lowercase lowercaseLetter simpleFold)

def keyOf (caseSensitive : Bool) (c : Char) : Char := if caseSensitive then c else simpleFold c

variable {caseSensitive : Bool} {word text : List Char}

theorem sameCharacter_eq (caseSensitive : Bool) (c d : Char) :
    sameCharacter caseSensitive c d = (keyOf caseSensitive c == keyOf caseSensitive d) := by
  cases caseSensitive with
  | true => rfl
  | false => rfl

/-- A word stands at the beginning of a text when its keys do. -/
theorem standsAt_iff_prefix : standsAt caseSensitive word text = true ↔
    word.map (keyOf caseSensitive) <+: text.map (keyOf caseSensitive) := by
  induction word generalizing text with
  | nil => simp [standsAt]
  | cons c word ih =>
    cases text with
    | nil => simp [standsAt]
    | cons d text =>
      rw [standsAt, Bool.and_eq_true, ih, sameCharacter_eq, beq_iff_eq, List.map_cons,
        List.map_cons, List.cons_prefix_cons]

theorem exists_standsAt_iff_infix :
    (∃ before after, text = before ++ after ∧ standsAt caseSensitive word after = true) ↔
      word.map (keyOf caseSensitive) <:+: text.map (keyOf caseSensitive) := by
  rw [List.infix_iff_prefix_suffix]
  constructor
  · rintro ⟨before, after, rfl, stands⟩
    refine ⟨_, standsAt_iff_prefix.1 stands, ?_⟩
    rw [List.map_append]
    exact List.suffix_append _ _
  · rintro ⟨_, starts, ends⟩
    obtain ⟨after, ⟨before, rfl⟩, rfl⟩ := List.suffix_map_iff.1 ends
    exact ⟨before, after, rfl, standsAt_iff_prefix.2 starts⟩

namespace Highlight

open Text (utf8Size)

/-- A scanner for one word finds something if and only if the word occurs. -/
theorem exists_mem_scanRanges_iff (nonempty : word ≠ []) (offset : Nat) :
    (∃ range ∈ scanRanges caseSensitive [word] offset text, range.1 < range.2) ↔
      ∃ before after, text = before ++ after ∧ standsAt caseSensitive word after = true := by
  obtain ⟨c, word, rfl⟩ := List.exists_cons_of_ne_nil nonempty
  induction text generalizing offset with
  | nil => simp [scanRanges, standsAt]
  | cons d text ih =>
    cases stands : standsAt caseSensitive (c :: word) (d :: text) with
    | true =>
      have found : ([c :: word].find? fun word ↦ standsAt caseSensitive word (d :: text)) =
          some (c :: word) := List.find?_cons_of_pos stands
      refine iff_of_true ?_ ⟨[], d :: text, rfl, stands⟩
      rw [scanRanges_word found]
      refine ⟨_, List.mem_cons_self, ?_⟩
      have positive := d.utf8Size_pos
      simp only [List.length_cons, List.take_succ_cons, utf8Size]
      omega
    | false =>
      have nothing : ([c :: word].find? fun word ↦ standsAt caseSensitive word (d :: text)) =
          none := by
        rw [List.find?_singleton, stands]
        rfl
      rw [scanRanges_skip (by simp [nothing]), ih]
      constructor
      · rintro ⟨before, after, rfl, later⟩
        exact ⟨d :: before, after, rfl, later⟩
      · rintro ⟨before, after, text_eq, later⟩
        cases before with
        | nil =>
          rw [List.nil_append] at text_eq
          rw [← text_eq, stands] at later
          cases later
        | cons e before =>
          rw [List.cons_append, List.cons.injEq] at text_eq
          exact ⟨before, after, text_eq.2, later⟩

/-- The pattern of the word finds a range in the text. -/
def Marks (options : SearchOptions) (dialect : Dialect) (word text : String) : Prop :=
  ∃ pattern, Alternation.ofWords? [word] options dialect = some pattern ∧
    ∃ range ∈ pattern.ranges text, range.1 < range.2

/-- A word is marked exactly where its keys occur among those of the text. -/
theorem marks_iff {word : String} (nonempty : word.toList ≠ []) (caseSensitive : Bool)
    (dialect : Dialect) (text : String) :
    Marks ⟨caseSensitive, false⟩ dialect word text ↔
      word.toList.map (keyOf caseSensitive) <:+: text.toList.map (keyOf caseSensitive) := by
  obtain ⟨pattern, pattern_eq, native⟩ := ofWords?_cons word [] caseSensitive dialect
  have ranges_eq : pattern.ranges text = scanRanges caseSensitive [word.toList] 0 text.toList := by
    rw [Alternation.ranges, native]
    exact matchesFrom_eq_scanRanges word.toList [] 0
  rw [← exists_standsAt_iff_infix, ← exists_mem_scanRanges_iff nonempty 0, ← ranges_eq]
  constructor
  · rintro ⟨other, other_eq, marked⟩
    rw [pattern_eq] at other_eq
    cases other_eq
    exact marked
  · exact fun marked ↦ ⟨pattern, pattern_eq, marked⟩

end Highlight

theorem lowercaseLetter_eq_simpleFold_of_lt :
    ∀ code ∈ List.range 0x80, lowercaseLetter (Char.ofNat code) = simpleFold (Char.ofNat code) := by
  decide +kernel

/-- Lower case and case folding are the same for ASCII letters. -/
theorem lowercaseBetween_ascii {c : Char} (ascii : isAscii c) (before after : List Char) :
    Unicode.lowercaseBetween before c after = [simpleFold c] := by
  have code_lt : c.toNat < 0x80 := of_decide_eq_true ascii
  have fold_eq := lowercaseLetter_eq_simpleFold_of_lt c.toNat (List.mem_range.2 code_lt)
  rw [Char.ofNat_toNat] at fold_eq
  rw [Unicode.lowercaseBetween, if_neg, if_neg, fold_eq]
  · rintro rfl
    revert code_lt
    decide
  · rintro rfl
    revert code_lt
    decide

theorem lowercaseFrom_ascii (ascii : ∀ c ∈ text, isAscii c) (before : List Char) :
    Unicode.lowercaseFrom before text = text.map simpleFold := by
  induction text generalizing before with
  | nil => rfl
  | cons c rest ih =>
    obtain ⟨first, others⟩ := List.forall_mem_cons.1 ascii
    rw [Unicode.lowercaseFrom, lowercaseBetween_ascii first, ih others]
    rfl

/-- Case matters, or else the texts are ASCII. -/
def Comparable (caseSensitive : Bool) (texts : List String) : Prop :=
  caseSensitive = true ∨ ∀ text ∈ texts, ∀ c ∈ text.toList, isAscii c

/-- Texts can be compared if all their characters are in texts that can be. -/
theorem Comparable.within {texts others : List String} (h : Comparable caseSensitive texts)
    (inside : ∀ other ∈ others, ∃ text ∈ texts, other.toList ⊆ text.toList) :
    Comparable caseSensitive others := by
  refine h.imp_right fun ascii other member c here ↦ ?_
  obtain ⟨text, textMember, subset⟩ := inside other member
  exact ascii text textMember c (subset here)

/-- A word that can be compared is found exactly where its keys occur among those of the text. -/
theorem foundIn_iff_infix {word text : String}
    (comparable : Comparable caseSensitive [word, text]) :
    FoundIn ⟨caseSensitive, false⟩ word text ↔
      word.toList.map (keyOf caseSensitive) <:+: text.toList.map (keyOf caseSensitive) := by
  have key_eq : keyOf true = id := rfl
  cases caseSensitive with
  | true => rw [key_eq, List.map_id, List.map_id, FoundIn, if_neg Bool.false_ne_true, if_pos rfl]
  | false =>
    have ascii := comparable.resolve_left Bool.false_ne_true
    simp only [List.mem_cons, List.not_mem_nil, or_false, forall_eq_or_imp, forall_eq] at ascii
    rw [FoundIn, if_neg Bool.false_ne_true, if_neg Bool.false_ne_true, lowercase, lowercase,
      String.toList_ofList, String.toList_ofList, lowercaseFrom_ascii ascii.1,
      lowercaseFrom_ascii ascii.2]
    rfl

theorem mem_intersperse {α : Type} {separator item : α} {items : List α} (h : item ∈ items) :
    item ∈ items.intersperse separator := by
  obtain ⟨index, inside, rfl⟩ := List.getElem_of_mem h
  rw [List.getElem_eq_getElem_intersperse_two_mul]
  exact List.getElem_mem _

theorem infix_of_mem_splitOn {part : List Char} {delimiter : Char}
    (h : part ∈ text.splitOn delimiter) : part <:+: text := by
  have joined : [delimiter].intercalate (text.splitOn delimiter) = text :=
    List.intercalate_splitOn delimiter
  rw [← joined]
  exact List.infix_of_mem_flatten (mem_intersperse h)

/-- A keyword of an entry is a part of a field. -/
theorem Entry.exists_infix_of_mem_keywords {entry : Entry} {delimiter : Char} {keyword : String}
    (h : keyword ∈ entry.keywords delimiter) :
    ∃ value ∈ entry.fields.values, keyword.toList <:+: value.toList := by
  unfold Entry.keywords at h
  split at h
  · cases h
  · rename_i stored found
    obtain ⟨⟨name, value⟩, entry_found, rfl⟩ := Option.map_eq_some_iff.1 found
    refine ⟨value, List.mem_map_of_mem (List.mem_of_find?_eq_some entry_found), ?_⟩
    unfold Keywords.split at h
    obtain ⟨trimmed, member, rfl⟩ := List.mem_map.1 h
    obtain ⟨part, partMember, rfl⟩ := List.mem_map.1 (List.mem_filter.1 member).1
    rw [String.toList_ofList]
    exact (Text.trim_infix part).trans (infix_of_mem_splitOn partMember)

def Entry.texts (entry : Entry) : List String := entry.entryType :: entry.fields.values

/-- A word is in one of the texts of the entry. -/
def Entry.Shows (entry : Entry) (caseSensitive : Bool) (word : String) : Prop :=
  ∃ text ∈ entry.texts,
    word.toList.map (keyOf caseSensitive) <:+: text.toList.map (keyOf caseSensitive)

section Entries

variable {entry : Entry} {delimiter : Char} {word : String}

theorem foundIn_iff_of_mem_texts (comparable : Comparable caseSensitive (word :: entry.texts))
    {text field : String} (member : field ∈ entry.texts) (inside : text.toList ⊆ field.toList) :
    FoundIn ⟨caseSensitive, false⟩ word text ↔
      word.toList.map (keyOf caseSensitive) <:+: text.toList.map (keyOf caseSensitive) := by
  apply foundIn_iff_infix
  apply comparable.within
  intro other otherMember
  simp only [List.mem_cons, List.not_mem_nil, or_false] at otherMember
  rcases otherMember with rfl | rfl
  · exact ⟨other, List.mem_cons_self, List.Subset.refl _⟩
  · exact ⟨field, List.mem_cons_of_mem _ member, inside⟩

/-- What a keyword says is said by a field, too. -/
theorem someText_iff_shows (comparable : Comparable caseSensitive (word :: entry.texts)) :
    entry.toRecord.SomeText delimiter (FoundIn ⟨caseSensitive, false⟩ word) ↔
      entry.Shows caseSensitive word := by
  have shows_of_mem {text : String} (member : text ∈ entry.texts)
      (found : FoundIn ⟨caseSensitive, false⟩ word text) : entry.Shows caseSensitive word :=
    ⟨text, member, (foundIn_iff_of_mem_texts comparable member (List.Subset.refl _)).1 found⟩
  constructor
  · rintro (ofType | ⟨text, member, found⟩ | ⟨keyword, member, found⟩)
    · exact shows_of_mem List.mem_cons_self ofType
    · exact shows_of_mem (List.mem_cons_of_mem _ member) found
    · obtain ⟨value, valueMember, part⟩ := Entry.exists_infix_of_mem_keywords member
      have inTexts : value ∈ entry.texts := List.mem_cons_of_mem _ valueMember
      have inKeyword := (foundIn_iff_of_mem_texts comparable inTexts part.subset).1 found
      exact ⟨value, inTexts, inKeyword.trans (part.map _)⟩
  · rintro ⟨text, member, shown⟩
    have found := (foundIn_iff_of_mem_texts comparable member (List.Subset.refl _)).2 shown
    rcases List.mem_cons.1 member with rfl | inFields
    · exact .inl found
    · exact .inr (.inl ⟨text, inFields, found⟩)

/-- An entry shows a word exactly when the word is marked in one of its texts. -/
theorem shows_iff_marks (nonempty : word.toList ≠ []) (dialect : Highlight.Dialect) :
    entry.Shows caseSensitive word ↔
      ∃ text ∈ entry.texts, Highlight.Marks ⟨caseSensitive, false⟩ dialect word text := by
  unfold Entry.Shows
  simp only [Highlight.marks_iff nonempty]

end Entries

/-! ## Queries of words and phrases -/

namespace Item

variable {record : Record} {delimiter : Char} {options : SearchOptions} {items : List Item}

/-- A record satisfies a conjunction of items when each is found in some text. -/
theorem satisfies_conjunction (first : Item) (rest : List Item) :
    (conjunction first rest).Satisfies options record delimiter ↔
      ∀ item ∈ first :: rest, record.SomeText delimiter (FoundIn options item.text) := by
  have extend (e : Expression) :
      (rest.foldl (fun e item ↦ .and e (.term item.text)) e).Satisfies options record delimiter ↔
        e.Satisfies options record delimiter ∧
          ∀ item ∈ rest, record.SomeText delimiter (FoundIn options item.text) := by
    induction rest generalizing e with
    | nil => simp
    | cons item rest ih =>
      rw [List.foldl_cons, ih, List.forall_mem_cons, ← and_assoc]
      rfl
  rw [conjunction, extend, List.forall_mem_cons]
  rfl

/-- The characters of an item are written. -/
theorem text_subset_written (item : Item) : item.text.toList ⊆ item.written := by
  cases item with
  | word text => exact List.Subset.refl _
  | phrase content =>
    intro c member
    have escaped : c ∈ Expression.escape c := by
      unfold Expression.escape
      split <;> simp
    simp only [written, List.mem_cons, List.mem_append]
    exact .inr (.inl (List.mem_flatMap.2 ⟨c, member, escaped⟩))

theorem Joined.text_subset (h : Joined items text) : ∀ item ∈ items, item.text.toList ⊆ text := by
  induction h with
  | @last item space plain blank =>
    rw [List.forall_mem_singleton]
    exact fun c member ↦ List.mem_append_left _ (item.text_subset_written member)
  | @cons item items space text plain blank apart there ih =>
    refine List.forall_mem_cons.2 ⟨?_, ?_⟩
    · exact fun c member ↦ List.mem_append_left _ (item.text_subset_written member)
    · exact fun next nextMember c member ↦
        List.mem_append_right _ (List.mem_append_right _ (ih next nextMember member))

end Item

/-- A query of words and phrases finds an entry if and only if the pattern of each word to highlight
finds a range in the type or in a field.  Either case matters, or all characters are ASCII. -/
theorem Query.isMatch_iff_marks {first : Item} {rest : List Item} {space text : List Char}
    {entry : Entry} (blank : ∀ c ∈ space, isBlank c) (h : Item.Joined (first :: rest) text)
    (few : (first :: rest).length ≤ maxTerms)
    (comparable : Comparable caseSensitive (String.ofList (space ++ text) :: entry.texts))
    (delimiter : Char) (dialect : Highlight.Dialect) :
    Query.isMatch ⟨String.ofList (space ++ text), ⟨caseSensitive, false⟩, delimiter⟩
        entry.toRecord = true ↔
      ∀ word ∈ Highlight.wordsOf (String.ofList (space ++ text)) ⟨caseSensitive, false⟩,
        ∃ text ∈ entry.texts, Highlight.Marks ⟨caseSensitive, false⟩ dialect word text := by
  have parsed := h.parse_eq blank few
  rw [Query.isMatch_eq_holds, Condition.holds_ofExpression_iff Query.lowercase_name_of_mem_fields,
    Query.expressionOf, parsed]
  dsimp only
  rw [Item.satisfies_conjunction, Highlight.wordsOf_joined h blank, List.forall_mem_map]
  refine forall₂_congr fun item member ↦ ?_
  have nonempty := (h.plain item member).text_ne_nil
  rw [← shows_iff_marks nonempty dialect]
  apply someText_iff_shows
  apply comparable.within
  intro other otherMember
  rcases List.mem_cons.1 otherMember with rfl | inEntry
  · refine ⟨_, List.mem_cons_self, ?_⟩
    rw [String.toList_ofList]
    exact fun c here ↦ List.mem_append_right _ (h.text_subset item member here)
  · exact ⟨other, List.mem_cons_of_mem _ inEntry, List.Subset.refl _⟩

/-- The word is in a field in upper case, and the phrase in a keyword. -/
theorem Query.isMatch_iff_marks_keyword :
    Query.isMatch ⟨"rust \"a b\"", ⟨false, false⟩, ';'⟩
        (((Entry.ofType "Book").setField "Title" "TRUST").setField "keywords" "x; a b").toRecord =
          true ∧
      ∀ word ∈ ["rust", "a b"], ∃ text ∈ ["Book", "x; a b", "TRUST"],
        Highlight.Marks ⟨false, false⟩ .escapes word text := by
  have plain : ∀ c ∈ "rust".toList, isBlank c = false ∧ c ∉ ['(', ')', '"', '='] :=
    List.forall_mem_cons.2 ⟨by decide, List.forall_mem_cons.2 ⟨by decide,
      List.forall_mem_cons.2 ⟨by decide, List.forall_mem_singleton.2 (by decide)⟩⟩⟩
  have isBare : IsBare "rust" := ⟨⟨by decide, plain, by decide⟩, by decide, by decide⟩
  have nothing : ∀ c ∈ ([] : List Char), isBlank c := by simp
  have space : ∀ c ∈ [' '], isBlank c := List.forall_mem_singleton.2 (by decide)
  have joined : Item.Joined [.word "rust", .phrase "a b"] _ :=
    .cons isBare space (List.cons_ne_nil _ _) (.last (List.cons_ne_nil _ _) nothing)
  have text_eq : String.ofList ([] ++ ((Item.word "rust").written ++
      ([' '] ++ ((Item.phrase "a b").written ++ [])))) = "rust \"a b\"" := by
    decide +kernel
  have ascii : ((String.ofList ([] ++ ((Item.word "rust").written ++
      ([' '] ++ ((Item.phrase "a b").written ++ [])))) ::
        (((Entry.ofType "Book").setField "Title" "TRUST").setField "keywords" "x; a b").texts).all
      fun text ↦ text.toList.all isAscii) = true := by
    decide +kernel
  have comparable : Comparable false (_ :: _) :=
    .inr fun text member ↦ List.all_eq_true.1 (List.all_eq_true.1 ascii text member)
  have marks := Query.isMatch_iff_marks nothing joined (by decide) comparable ';' .escapes
  have words_eq : Highlight.wordsOf "rust \"a b\"" ⟨false, false⟩ = ["rust", "a b"] := by
    decide +kernel
  have found : Query.isMatch ⟨"rust \"a b\"", ⟨false, false⟩, ';'⟩
      (((Entry.ofType "Book").setField "Title" "TRUST").setField "keywords" "x; a b").toRecord =
        true := by
    decide +kernel
  rw [text_eq, words_eq] at marks
  exact ⟨found, marks.1 found⟩

end RecordSearch
