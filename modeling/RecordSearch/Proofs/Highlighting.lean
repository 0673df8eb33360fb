import RecordSearch.Proofs.Literal

/-!
# Highlighting plain words

The ranges that a plain pattern finds are those of a scanner that knows nothing of patterns: it
looks at each place for the first word that stands there.  A word that is empty stands everywhere,
and hides the words behind it.
-/

namespace RecordSearch.Highlight

open Regex (alternation byteOffset matchEnd?_alternation matchesFrom standsAt)
open Text (utf8Size utf8Size_append)

variable {caseSensitive : Bool} {words : List (List Char)} {text : List Char}

/-- The ranges of bytes that a scanner finds in a text, whose first byte has the given offset.  At
each character it takes the first of the words that stands there.  It goes on behind the word, or at
the next character if there is none or the word is empty. -/
def scanRanges (caseSensitive : Bool) (words : List (List Char)) (offset : Nat) :
    List Char → List (Nat × Nat)
  | [] => []
  | d :: rest =>
    match words.find? fun word ↦ standsAt caseSensitive word (d :: rest) with
    | some (_ :: word) =>
      let stop := offset + utf8Size (d :: rest.take word.length)
      (offset, stop) :: scanRanges caseSensitive words stop (rest.drop word.length)
    | _ => scanRanges caseSensitive words (offset + utf8Size [d]) rest
termination_by text => text.length
decreasing_by
  · simp only [List.length_cons, List.length_drop]
    omega
  · simp

theorem byteOffset_add (text : List Char) (start count : Nat) :
    byteOffset text.toArray (start + count) =
      byteOffset text.toArray start + utf8Size ((text.drop start).take count) := by
  simp only [byteOffset, List.take_add, utf8Size_append]

theorem scanRanges_word {offset : Nat} {c : Char} {word : List Char}
    (found : (words.find? fun word ↦ standsAt caseSensitive word text) = some (c :: word)) :
    scanRanges caseSensitive words offset text =
      (offset, offset + utf8Size (text.take (c :: word).length)) ::
        scanRanges caseSensitive words (offset + utf8Size (text.take (c :: word).length))
          (text.drop (c :: word).length) := by
  cases text with
  | nil =>
    have stands := List.find?_some found
    cases stands
  | cons d rest =>
    rw [scanRanges, found]
    rfl

theorem scanRanges_skip {offset : Nat} {d : Char} {rest : List Char}
    (nothing : ∀ c word,
      (words.find? fun word ↦ standsAt caseSensitive word (d :: rest)) ≠ some (c :: word)) :
    scanRanges caseSensitive words offset (d :: rest) =
      scanRanges caseSensitive words (offset + utf8Size [d]) rest := by
  rw [scanRanges]
  split
  · rename_i found
    exact absurd found (nothing _ _)
  · rfl

/-- Where no word with a character stands, the scanner goes on at the next place. -/
theorem scanRanges_next {start : Nat}
    (nothing : ∀ c word,
      (words.find? fun word ↦ standsAt caseSensitive word (text.drop start)) ≠ some (c :: word)) :
    scanRanges caseSensitive words (byteOffset text.toArray start) (text.drop start) =
      scanRanges caseSensitive words (byteOffset text.toArray (start + 1))
        (text.drop (start + 1)) := by
  rw [byteOffset_add, ← List.drop_drop]
  revert nothing
  cases text.drop start with
  | nil => simp only [scanRanges, List.drop_nil, implies_true]
  | cons d rest => exact scanRanges_skip

/-- From a place on, the matches are what the scanner finds there. -/
theorem matchesFrom_eq_scanRanges (first : List Char) (rest : List (List Char)) (start : Nat) :
    (matchesFrom (alternation { caseInsensitive := !caseSensitive } first rest) text.toArray
      start).map (fun (start, stop) ↦
        (byteOffset text.toArray start, byteOffset text.toArray stop)) =
      scanRanges caseSensitive (first :: rest) (byteOffset text.toArray start)
        (text.drop start) := by
  fun_induction matchesFrom (alternation { caseInsensitive := !caseSensitive } first rest)
      text.toArray start with
  | case1 start inside nothing ih =>
    rw [List.size_toArray] at inside
    rw [matchEnd?_alternation first rest inside, Option.map_eq_none_iff] at nothing
    rw [ih]
    refine (scanRanges_next ?_).symm
    intro c word found
    rw [nothing] at found
    cases found
  | case2 start inside stop found nonempty ih =>
    rw [List.size_toArray] at inside
    rw [matchEnd?_alternation first rest inside, Option.map_eq_some_iff] at found
    obtain ⟨word, found, stop_eq⟩ := found
    subst stop_eq
    cases word with
    | nil => exact absurd nonempty (Nat.lt_irrefl start)
    | cons c word =>
      have stop_eq : byteOffset text.toArray (start + (c :: word).length) =
          byteOffset text.toArray start +
            utf8Size ((text.drop start).take (c :: word).length) :=
        byteOffset_add text start (c :: word).length
      rw [List.map_cons, ih, scanRanges_word found, ← stop_eq, List.drop_drop]
  | case3 start inside stop found empty ih =>
    rw [List.size_toArray] at inside
    rw [matchEnd?_alternation first rest inside, Option.map_eq_some_iff] at found
    obtain ⟨word, found, stop_eq⟩ := found
    subst stop_eq
    rw [ih]
    refine (scanRanges_next ?_).symm
    intro c other found'
    rw [found] at found'
    cases found'
    exact absurd (Nat.lt_add_of_pos_right (Nat.zero_lt_succ _)) empty
  | case4 start outside =>
    rw [List.size_toArray, Nat.not_le] at outside
    rw [List.drop_eq_nil_of_le (Nat.le_of_lt outside), scanRanges]
    rfl

/-- Words in a text, whether or not a scanner would take them. -/
theorem isMatch_alternation (first : List Char) (rest : List (List Char)) :
    (alternation { caseInsensitive := !caseSensitive } first rest).isMatch text.toArray = true ↔
      ∃ word ∈ first :: rest, ∃ before after, text = before ++ after ∧
        standsAt caseSensitive word after = true := by
  have found_iff : ∀ start ≤ text.length,
      ((alternation { caseInsensitive := !caseSensitive } first rest).matchEnd? text.toArray
        start).isSome = true ↔
      ∃ word ∈ first :: rest, standsAt caseSensitive word (text.drop start) = true := by
    intro start inside
    rw [matchEnd?_alternation first rest inside, Option.isSome_map, List.find?_isSome]
  rw [Regex.isMatch, List.any_eq_true]
  constructor
  · rintro ⟨start, member, found⟩
    have inside : start ≤ text.length := Nat.le_of_lt_succ (List.mem_range.1 member)
    obtain ⟨word, wordMember, stands⟩ := (found_iff start inside).1 found
    exact ⟨word, wordMember, text.take start, text.drop start, (List.take_append_drop _ _).symm,
      stands⟩
  · rintro ⟨word, member, before, after, rfl, stands⟩
    have inside : before.length ≤ (before ++ after).length := by simp
    refine ⟨before.length, List.mem_range.2 (Nat.lt_succ_of_le inside), ?_⟩
    rw [found_iff before.length inside, List.drop_left]
    exact ⟨word, member, stands⟩

/-- Some plain words always have a pattern to search with. -/
theorem ofWords?_cons (first : String) (rest : List String) (caseSensitive : Bool)
    (dialect : Dialect) :
    ∃ pattern, Alternation.ofWords? (first :: rest) ⟨caseSensitive, false⟩ dialect = some pattern ∧
      pattern.native = some (alternation { caseInsensitive := !caseSensitive } first.toList
        (rest.map String.toList)) := by
  refine ⟨_, rfl, ?_⟩
  exact Regex.compile?_writeGroups first.toList (rest.map String.toList) (!caseSensitive)

/-- A plain pattern can always be searched for.  It finds a text if some word stands somewhere in
it, and its ranges are those of the scanner, whatever characters the words have. -/
theorem ofWords?_plain {words : List String} (nonempty : words ≠ []) (caseSensitive : Bool)
    (dialect : Dialect) :
    ∃ pattern, Alternation.ofWords? words ⟨caseSensitive, false⟩ dialect = some pattern ∧
      pattern.isUsable = true ∧ ∀ text : String,
        (pattern.isMatch text = true ↔ ∃ word ∈ words, ∃ before after,
          text.toList = before ++ after ∧ standsAt caseSensitive word.toList after = true) ∧
        pattern.ranges text =
          scanRanges caseSensitive (words.map String.toList) 0 text.toList := by
  obtain ⟨first, rest, rfl⟩ := List.exists_cons_of_ne_nil nonempty
  obtain ⟨pattern, pattern_eq, native⟩ := ofWords?_cons first rest caseSensitive dialect
  refine ⟨pattern, pattern_eq, ?_, fun text ↦ ⟨?_, ?_⟩⟩
  · rw [Alternation.isUsable, native, Option.isSome_some]
  · rw [Alternation.isMatch, native, Option.any_some, isMatch_alternation, ← List.map_cons]
    constructor
    · rintro ⟨_, member, found⟩
      obtain ⟨word, wordMember, rfl⟩ := List.mem_map.1 member
      exact ⟨word, wordMember, found⟩
    · rintro ⟨word, member, found⟩
      exact ⟨word.toList, List.mem_map_of_mem member, found⟩
  · rw [Alternation.ranges, native]
    exact matchesFrom_eq_scanRanges first.toList (rest.map String.toList) 0

/-- A word with a bar, the empty word and the Kelvin sign, which equals `k`. -/
theorem ofWords?_plain_bar :
    ∃ pattern, Alternation.ofWords? ["a|", "", "\u212A"] ⟨false, false⟩ .escapes = some pattern ∧
      pattern.isUsable = true ∧ ∀ text : String,
        (pattern.isMatch text = true ↔ ∃ word ∈ ["a|", "", "\u212A"], ∃ before after,
          text.toList = before ++ after ∧ standsAt false word.toList after = true) ∧
        pattern.ranges text =
          scanRanges false (["a|", "", "\u212A"].map String.toList) 0 text.toList :=
  ofWords?_plain (by decide) false .escapes

/-- The Kelvin sign takes three bytes, and the empty word hides `b`. -/
example : scanRanges false [['K'], [], ['b']] 0 ['\u212A', 'b', 'k'] = [(0, 3), (4, 5)] := by
  decide +kernel

end RecordSearch.Highlight
