import Mathlib.Data.List.Nodup
import RecordSearch.Record.Basic

/-!
# Adding keywords

The keywords of an entry are kept as one text.  To add a keyword, the list is read, the keyword is
put behind it, and the text is written anew.  What is read from it afterwards is the old list and
behind it the parts into which the delimiter divides the keyword.  Nothing else of the entry
changes.  A keyword that stays in one part is therefore never listed twice, and adding it once more
changes nothing.  A keyword that is divided is not recognised in the list, so that adding it once
more lists its parts once more.
-/

namespace RecordSearch

open Unicode (isBlank)
open Text (trim trimString)

namespace Keywords

variable {delimiter c : Char} {part text : List Char}

def parts (delimiter : Char) (text : List Char) : List (List Char) :=
  ((text.splitOn delimiter).map trim).filter fun part ↦ !part.isEmpty

theorem split_eq (delimiter : Char) (text : String) :
    split delimiter text = (parts delimiter text.toList).map String.ofList := rfl

/-- The parts on both sides of a delimiter are independent. -/
theorem parts_append_cons (delimiter : Char) (text rest : List Char) :
    parts delimiter (text ++ delimiter :: rest) =
      parts delimiter text ++ parts delimiter rest := by
  simp only [parts, List.splitOn_append_cons_self, List.map_append, List.filter_append]

/-- White space at the start of a text is trimmed, or is a delimiter with nothing before it. -/
theorem parts_cons_of_blank (blank : isBlank c) (delimiter : Char) (text : List Char) :
    parts delimiter (c :: text) = parts delimiter text := by
  obtain ⟨first, others, split_eq⟩ :=
    List.exists_cons_of_ne_nil (List.splitOn_ne_nil delimiter text)
  unfold parts
  rw [List.splitOn_cons_eq_if_modifyHead]
  split
  · rfl
  · have trimmed : trim (c :: first) = trim first := by
      have surround := Text.trim_surround (List.forall_mem_singleton.2 blank)
        (List.forall_mem_nil _) first
      rwa [List.append_nil] at surround
    rw [split_eq, List.modifyHead_cons, List.map_cons, List.map_cons, trimmed]

theorem parts_intercalate (delimiter : Char) (texts : List (List Char)) :
    parts delimiter ([delimiter, ' '].intercalate texts) = texts.flatMap (parts delimiter) := by
  induction texts with
  | nil => rfl
  | cons text texts ih =>
    cases texts with
    | nil => rw [List.intercalate_singleton, List.flatMap_cons, List.flatMap_nil, List.append_nil]
    | cons next texts =>
      have space : isBlank ' ' := by decide
      calc
        parts delimiter ([delimiter, ' '].intercalate (text :: next :: texts)) =
            parts delimiter (text ++ delimiter ::
              (' ' :: [delimiter, ' '].intercalate (next :: texts))) := by
          rw [List.intercalate_cons_cons, List.append_assoc]
          rfl
        _ = parts delimiter text ++ (next :: texts).flatMap (parts delimiter) := by
          rw [parts_append_cons, parts_cons_of_blank space, ih]

theorem not_mem_of_mem_splitOn (h : part ∈ text.splitOn delimiter) : delimiter ∉ part := by
  induction text generalizing part with
  | nil =>
    cases List.mem_singleton.1 h
    exact List.not_mem_nil
  | cons c text ih =>
    obtain ⟨first, others, split_eq⟩ :=
      List.exists_cons_of_ne_nil (List.splitOn_ne_nil delimiter text)
    rw [split_eq] at ih
    rw [List.splitOn_cons_eq_if_modifyHead, split_eq] at h
    split at h
    · rcases List.mem_cons.1 h with rfl | member
      · exact List.not_mem_nil
      · exact ih member
    · rename_i different
      rcases List.mem_cons.1 h with rfl | member
      · rw [List.mem_cons, not_or]
        exact ⟨fun same ↦ different (beq_iff_eq.2 same.symm), ih List.mem_cons_self⟩
      · exact ih (List.mem_cons_of_mem _ member)

/-- A part is in one piece, trimmed and not empty. -/
theorem mem_parts (h : part ∈ parts delimiter text) :
    delimiter ∉ part ∧ trim part = part ∧ part ≠ [] := by
  obtain ⟨trimmed, nonempty⟩ := List.mem_filter.1 h
  obtain ⟨piece, member, rfl⟩ := List.mem_map.1 trimmed
  refine ⟨fun inside ↦ ?_, Text.trim_trim piece, ?_⟩
  · exact not_mem_of_mem_splitOn member ((Text.trim_infix piece).subset inside)
  · rintro empty
    rw [empty] at nonempty
    cases nonempty

theorem parts_eq_singleton (single : delimiter ∉ text) (trimmed : trim text = text)
    (nonempty : text ≠ []) : parts delimiter text = [text] := by
  rw [parts, List.splitOn_eq_singleton single, List.map_singleton, trimmed]
  exact List.filter_cons_of_pos (by rwa [Bool.not_eq_true', List.isEmpty_eq_false_iff])

/-- To divide the parts once more changes nothing. -/
theorem flatMap_parts_parts (delimiter : Char) (text : List Char) :
    (parts delimiter text).flatMap (parts delimiter) = parts delimiter text := by
  have alone : ∀ part ∈ parts delimiter text, parts delimiter part = [part] := by
    intro part member
    obtain ⟨single, trimmed, nonempty⟩ := mem_parts member
    exact parts_eq_singleton single trimmed nonempty
  rw [List.flatMap_congr alone, List.flatMap_singleton']

theorem flatMap_split (delimiter : Char) (texts : List (List Char)) :
    (texts.map String.ofList).flatMap (split delimiter) =
      (texts.flatMap (parts delimiter)).map String.ofList := by
  rw [List.flatMap_map, List.map_flatMap]
  simp only [split_eq, String.toList_ofList]

/-- A list that is written and read is divided at every delimiter in it. -/
theorem split_join (delimiter : Char) (keywords : List String) :
    split delimiter (join delimiter keywords) = keywords.flatMap (split delimiter) := by
  have letters : (keywords.map String.toList).map String.ofList = keywords := by
    rw [List.map_map]
    exact (List.map_congr_left fun keyword _ ↦ String.ofList_toList).trans keywords.map_id
  rw [split_eq, join, String.toList_ofList, parts_intercalate, ← flatMap_split, letters]

/-- What was read from a text is not divided any more. -/
theorem flatMap_split_split (delimiter : Char) (text : String) :
    (split delimiter text).flatMap (split delimiter) = split delimiter text := by
  rw [split_eq, flatMap_split, flatMap_parts_parts]

theorem not_mem_of_mem_split {delimiter : Char} {keyword text : String}
    (h : keyword ∈ split delimiter text) : delimiter ∉ keyword.toList := by
  obtain ⟨part, member, rfl⟩ := List.mem_map.1 h
  rw [String.toList_ofList]
  exact (mem_parts member).1

/-- The delimiter does not divide the keyword: it does not stand in it, or there is nothing else but
white space in it. -/
def IsUndivided (delimiter : Char) (keyword : String) : Prop :=
  delimiter ∉ (trimString keyword).toList ∨ split delimiter (trimString keyword) = []

instance (delimiter : Char) (keyword : String) : Decidable (IsUndivided delimiter keyword) :=
  inferInstanceAs (Decidable (_ ∨ _))

/-- A keyword that is not divided is split into itself, without the blanks around it. -/
theorem split_trimString {keyword : String} (single : delimiter ∉ (trimString keyword).toList)
    (nonempty : trimString keyword ≠ "") :
    split delimiter (trimString keyword) = [trimString keyword] := by
  have trimmed : trim (trimString keyword).toList = (trimString keyword).toList := by
    rw [trimString, String.toList_ofList, Text.trim_trim]
  rw [split_eq, parts_eq_singleton single trimmed (by rwa [ne_eq, String.toList_eq_nil_iff]),
    List.map_singleton, String.ofList_toList]

end Keywords

/-! ## Entries -/

namespace Entry

open Keywords (IsUndivided split)

variable {entry : Entry} {delimiter : Char} {keyword : String} {keywords : List String}

@[simp]
theorem keywords_ofType (entryType : String) (delimiter : Char) :
    (ofType entryType).keywords delimiter = [] := rfl

theorem flatMap_split_keywords (entry : Entry) (delimiter : Char) :
    (entry.keywords delimiter).flatMap (split delimiter) = entry.keywords delimiter := by
  unfold Entry.keywords
  split
  · rfl
  · exact Keywords.flatMap_split_split delimiter _

theorem not_mem_of_mem_keywords (h : keyword ∈ entry.keywords delimiter) :
    delimiter ∉ keyword.toList := by
  rw [← flatMap_split_keywords] at h
  obtain ⟨_, _, member⟩ := List.mem_flatMap.1 h
  exact Keywords.not_mem_of_mem_split member

/-- A keyword is passed over if it is blank or listed already. -/
def PassesOver (entry : Entry) (keyword : String) (delimiter : Char) : Prop :=
  trimString keyword = "" ∨ trimString keyword ∈ entry.keywords delimiter

theorem addKeyword_of_passesOver (h : entry.PassesOver keyword delimiter) :
    entry.addKeyword keyword delimiter = entry := by
  rw [addKeyword]
  refine if_pos ?_
  rw [Bool.or_eq_true, String.isEmpty_iff, List.contains_iff_mem]
  exact h

theorem addKeyword_of_not_passesOver (h : ¬ entry.PassesOver keyword delimiter) :
    entry.addKeyword keyword delimiter =
      { entry with
        fields := entry.fields.set keywordsField
          (Keywords.join delimiter (entry.keywords delimiter ++ [trimString keyword])) } := by
  rw [addKeyword]
  refine if_neg ?_
  rw [Bool.or_eq_true, String.isEmpty_iff, List.contains_iff_mem]
  exact h

/-- A keyword that is not passed over is listed as the delimiter divides it. -/
theorem keywords_addKeyword (h : ¬ entry.PassesOver keyword delimiter) :
    (entry.addKeyword keyword delimiter).keywords delimiter =
      entry.keywords delimiter ++ split delimiter (trimString keyword) := by
  rw [addKeyword_of_not_passesOver h, Entry.keywords, field?, Fields.get?_set, if_pos rfl]
  dsimp only
  rw [Keywords.split_join, List.flatMap_append, flatMap_split_keywords, List.flatMap_singleton]

/-- Keywords are added to the field of keywords, and nothing else of the entry is touched. -/
theorem entryType_addKeyword (entry : Entry) (keyword : String) (delimiter : Char) :
    (entry.addKeyword keyword delimiter).entryType = entry.entryType := by
  by_cases h : entry.PassesOver keyword delimiter
  · rw [addKeyword_of_passesOver h]
  · rw [addKeyword_of_not_passesOver h]

/-- To add a keyword changes no other field. -/
theorem field?_addKeyword {name : String} (other : name ≠ keywordsField) (entry : Entry)
    (keyword : String) (delimiter : Char) :
    (entry.addKeyword keyword delimiter).field? name = entry.field? name := by
  by_cases h : entry.PassesOver keyword delimiter
  · rw [addKeyword_of_passesOver h]
  · rw [addKeyword_of_not_passesOver h, field?, Fields.get?_set, if_neg other.symm, field?]

/-- A keyword that is blank or listed already changes nothing.  Any other keyword is put behind the
list, divided at each delimiter, so that it is one more keyword if no delimiter stands in it.  The
type and the other fields stay as they are. -/
theorem keywords_addKeyword_and_frame (entry : Entry) (keyword : String) (delimiter : Char) :
    (trimString keyword = "" ∨ trimString keyword ∈ entry.keywords delimiter →
        entry.addKeyword keyword delimiter = entry) ∧
      (trimString keyword ≠ "" ∧ trimString keyword ∉ entry.keywords delimiter →
        (entry.addKeyword keyword delimiter).keywords delimiter =
            entry.keywords delimiter ++ split delimiter (trimString keyword) ∧
          (delimiter ∉ (trimString keyword).toList →
            (entry.addKeyword keyword delimiter).keywords delimiter =
              entry.keywords delimiter ++ [trimString keyword])) ∧
      (entry.addKeyword keyword delimiter).entryType = entry.entryType ∧
      ∀ name, name ≠ keywordsField →
        (entry.addKeyword keyword delimiter).field? name = entry.field? name := by
  refine ⟨addKeyword_of_passesOver, ?_, entryType_addKeyword entry keyword delimiter,
    fun name other ↦ field?_addKeyword other entry keyword delimiter⟩
  rintro ⟨nonempty, new⟩
  have listed := keywords_addKeyword (not_or.2 ⟨nonempty, new⟩)
  refine ⟨listed, fun single ↦ ?_⟩
  rw [listed, Keywords.split_trimString single nonempty]

/-- A keyword that is listed already, one that a space divides, and one that no space divides, with
a space between keywords. -/
theorem keywords_addKeyword_fig :
    let entry := ((ofType "misc").setField "Title" "Fruit").setField "Keywords" " fig  kiwi\t"
    entry.addKeyword "\tkiwi " ' ' = entry ∧
      (entry.addKeyword " red apple" ' ').keywords ' ' = ["fig", "kiwi", "red", "apple"] ∧
      (entry.addKeyword "lime " ' ').keywords ' ' = ["fig", "kiwi", "lime"] ∧
      (entry.addKeyword "lime " ' ').field? "title" = some "Fruit" := by
  intro entry
  have listed := keywords_addKeyword_and_frame entry "\tkiwi " ' '
  have divided := keywords_addKeyword_and_frame entry " red apple" ' '
  have single := keywords_addKeyword_and_frame entry "lime " ' '
  refine ⟨listed.1 (by decide +kernel), ?_, ?_, ?_⟩
  · rw [(divided.2.1 (by decide +kernel)).1]
    decide +kernel
  · rw [(single.2.1 (by decide +kernel)).2 (by decide +kernel)]
    decide +kernel
  · rw [single.2.2.2 "title" (by decide)]
    decide +kernel

/-- Undivided keywords are new where they are added. -/
theorem nodup_keywords_addKeyword (undivided : IsUndivided delimiter keyword)
    (nodup : (entry.keywords delimiter).Nodup) :
    ((entry.addKeyword keyword delimiter).keywords delimiter).Nodup := by
  by_cases h : entry.PassesOver keyword delimiter
  · rwa [addKeyword_of_passesOver h]
  · rw [keywords_addKeyword h]
    rcases undivided with single | nothing
    · obtain ⟨nonempty, new⟩ := not_or.1 h
      rw [Keywords.split_trimString single nonempty]
      rw [← List.concat_eq_append]
      exact nodup.concat new
    · rwa [nothing, List.append_nil]

def addKeywords (entry : Entry) (keywords : List String) (delimiter : Char) : Entry :=
  keywords.foldl (fun entry keyword ↦ entry.addKeyword keyword delimiter) entry

/-- Undivided keywords, added one by one, make no keyword stand twice. -/
theorem nodup_keywords_addKeywords (undivided : ∀ keyword ∈ keywords, IsUndivided delimiter keyword)
    (nodup : (entry.keywords delimiter).Nodup) :
    ((entry.addKeywords keywords delimiter).keywords delimiter).Nodup := by
  induction keywords generalizing entry with
  | nil => exact nodup
  | cons keyword keywords ih =>
    obtain ⟨first, others⟩ := List.forall_mem_cons.1 undivided
    exact ih others (nodup_keywords_addKeyword first nodup)

/-- An undivided keyword is passed over, or written as before, when it is added once more. -/
theorem addKeyword_addKeyword (undivided : IsUndivided delimiter keyword) :
    (entry.addKeyword keyword delimiter).addKeyword keyword delimiter =
      entry.addKeyword keyword delimiter := by
  by_cases h : entry.PassesOver keyword delimiter
  · rw [addKeyword_of_passesOver h, addKeyword_of_passesOver h]
  · have listed := keywords_addKeyword h
    rcases undivided with single | nothing
    · apply addKeyword_of_passesOver
      rw [Keywords.split_trimString single (not_or.1 h).1] at listed
      right
      rw [listed]
      exact List.mem_append_right _ List.mem_cons_self
    · rw [nothing, List.append_nil] at listed
      have again : ¬ (entry.addKeyword keyword delimiter).PassesOver keyword delimiter := by
        rwa [PassesOver, listed]
      rw [addKeyword_of_not_passesOver again, listed, addKeyword_of_not_passesOver h]
      dsimp only
      rw [Fields.set_set]

/-- No keyword in the list is recognised as a divided one. -/
theorem not_passesOver_of_divided (divided : ¬ IsUndivided delimiter keyword) (entry : Entry) :
    ¬ entry.PassesOver keyword delimiter := by
  obtain ⟨inside, nonempty⟩ := not_or.1 divided
  rintro (blank | listed)
  · rw [blank] at nonempty
    exact nonempty rfl
  · exact inside (not_mem_of_mem_keywords listed)

/-- A divided keyword is listed twice if it is added twice. -/
theorem keywords_addKeyword_addKeyword (divided : ¬ IsUndivided delimiter keyword) (entry : Entry) :
    ((entry.addKeyword keyword delimiter).addKeyword keyword delimiter).keywords delimiter =
      (entry.addKeyword keyword delimiter).keywords delimiter ++
        split delimiter (trimString keyword) :=
  keywords_addKeyword (not_passesOver_of_divided divided _)

/-- Undivided keywords can be added in any number to a list without repetitions, and there are none
in it afterwards.  Adding a keyword twice in a row is the same as adding it once if and only if it
is undivided.  Otherwise the list has repetitions after the second time, whatever it was before. -/
theorem nodup_addKeywords_and_twice_iff (entry : Entry) (delimiter : Char) :
    (∀ keywords : List String, (entry.keywords delimiter).Nodup →
        (∀ keyword ∈ keywords, IsUndivided delimiter keyword) →
          ((entry.addKeywords keywords delimiter).keywords delimiter).Nodup) ∧
      ∀ keyword : String,
        ((entry.addKeyword keyword delimiter).addKeyword keyword delimiter =
            entry.addKeyword keyword delimiter ↔ IsUndivided delimiter keyword) ∧
          (¬ IsUndivided delimiter keyword →
            ¬ (((entry.addKeyword keyword delimiter).addKeyword keyword delimiter).keywords
              delimiter).Nodup) := by
  refine ⟨fun keywords nodup undivided ↦ nodup_keywords_addKeywords undivided nodup,
    fun keyword ↦ ⟨⟨?_, addKeyword_addKeyword⟩, ?_⟩⟩
  · intro same
    by_contra divided
    have longer := keywords_addKeyword_addKeyword divided entry
    rw [same, List.self_eq_append_right] at longer
    exact divided (.inr longer)
  · intro divided repeated
    have first := keywords_addKeyword (not_passesOver_of_divided divided entry)
    rw [keywords_addKeyword_addKeyword divided, first] at repeated
    obtain ⟨part, member⟩ := List.exists_mem_of_ne_nil _ (not_or.1 divided).2
    exact List.disjoint_of_nodup_append repeated (List.mem_append_right _ member) member

/-- Keywords that are new, blank, listed already or nothing but a delimiter. -/
theorem nodup_addKeywords_banana :
    ((ofType "misc").addKeywords ["one two", " banana ", "", "one two\t", ","] ',').keywords ',' =
        ["one two", "banana"] ∧
      (((ofType "misc").addKeywords ["one two", " banana ", "", "one two\t", ","] ',').keywords
        ',').Nodup ∧
      ((ofType "misc").addKeyword ", " ',').addKeyword ", " ',' =
        (ofType "misc").addKeyword ", " ',' ∧
      ¬ ((((ofType "misc").addKeyword "a,b" ',').addKeyword "a,b" ',').keywords ',').Nodup := by
  have all := nodup_addKeywords_and_twice_iff (ofType "misc") ','
  refine ⟨by decide +kernel, ?_, ?_, ?_⟩
  · have none : ((ofType "misc").keywords ',').Nodup := by
      rw [keywords_ofType]
      exact List.nodup_nil
    exact all.1 _ none (by decide +kernel)
  · exact (all.2 ", ").1.2 (by decide +kernel)
  · exact (all.2 "a,b").2 (by decide +kernel)

/-- Neither holds of a keyword with a delimiter between two others. -/
theorem not_nodup_addKeywords :
    (¬ ∀ (entry : Entry) (delimiter : Char) (keywords : List String),
        (entry.keywords delimiter).Nodup →
          ((entry.addKeywords keywords delimiter).keywords delimiter).Nodup) ∧
      ¬ ∀ (entry : Entry) (delimiter : Char) (keyword : String),
        (entry.addKeyword keyword delimiter).addKeyword keyword delimiter =
          entry.addKeyword keyword delimiter := by
  constructor
  · intro all
    have nodup := all (ofType "") ',' ["a,b", "a,b"] List.nodup_nil
    revert nodup
    decide +kernel
  · intro all
    have same := all (ofType "") ',' "a,b"
    revert same
    decide +kernel

end Entry

end RecordSearch
