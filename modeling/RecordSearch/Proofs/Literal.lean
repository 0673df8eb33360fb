import RecordSearch.Highlight.Pattern
import RecordSearch.Proofs.LoopFree

/-!
# Groups of literal words

Words are quoted, put into groups and joined by bars, and the result is read as a regular
expression.  It is the alternation of the words, in their order and character by character, whatever
characters they have.
-/

namespace RecordSearch.Regex

open Highlight (writeGroups)

/-- In front of the rest, a text is read as the given pieces, and reading goes on in another
nesting. -/
def ReadsAs (nesting : Nesting) (text : List Char) (pieces : List Piece) (next : Nesting)
    (rest : List Char) : Prop :=
  readPieces nesting (text ++ rest) = (readPieces next rest).map (pieces ++ ·)

section Pieces

variable {c : Char} {word text text' rest rest' : List Char} {pieces pieces' : List Piece}
  {piece : Piece} {outer : List Bool} {nesting middle next : Nesting}

theorem readsAs_nil (nesting : Nesting) (rest : List Char) :
    ReadsAs nesting [] [] nesting rest := by
  unfold ReadsAs
  rw [List.nil_append]
  cases readPieces nesting rest with
  | none => rfl
  | some => rfl

/-- Texts one after the other are read as their pieces one after the other. -/
theorem ReadsAs.append (first : ReadsAs nesting text pieces middle (text' ++ rest))
    (second : ReadsAs middle text' pieces' next rest) :
    ReadsAs nesting (text ++ text') (pieces ++ pieces') next rest := by
  unfold ReadsAs at first second ⊢
  calc
    readPieces nesting (text ++ text' ++ rest) =
        (readPieces middle (text' ++ rest)).map (pieces ++ ·) := by
      rw [List.append_assoc, first]
    _ = ((readPieces next rest).map (pieces' ++ ·)).map (pieces ++ ·) := by rw [second]
    _ = (readPieces next rest).map (pieces ++ pieces' ++ ·) := by
      cases readPieces next rest with
      | none => rfl
      | some => exact congrArg some (List.append_assoc _ _ _).symm

theorem readsAs_piece (read : readPiece false c (text ++ rest) = some (piece, rest))
    (after : (Nesting.mk false outer).after? piece = some next) :
    ReadsAs ⟨false, outer⟩ (c :: text) [piece] next rest := by
  have shorter : rest.length < (c :: (text ++ rest)).length := by
    simp only [List.length_cons, List.length_append]
    omega
  unfold ReadsAs
  rw [List.cons_append, readPieces]
  simp only [skip, Bool.false_eq_true, if_false, read, after, if_pos shorter]
  rfl

theorem readPiece_plain (h : isMeta c = false) (rest : List Char) :
    readPiece false c rest = some (.literal c false, rest) := by
  unfold readPiece
  split
  all_goals first | rfl | exact absurd h (by decide)

theorem readPiece_escaped (h : isMeta c = true) (rest : List Char) :
    readPiece false '\\' (c :: rest) = some (.literal c false, rest) := by
  simp only [isMeta, List.contains_eq_mem, List.mem_cons, List.not_mem_nil, or_false,
    decide_eq_true_eq] at h
  rcases h with rfl | rfl | rfl | rfl | rfl | rfl | rfl | rfl | rfl | rfl | rfl | rfl | rfl | rfl |
    rfl | rfl | rfl | rfl
  all_goals rfl

theorem readsAs_quotedCharacter (c : Char) (outer : List Bool) (rest : List Char) :
    ReadsAs ⟨false, outer⟩ (quote [c]) [.literal c false] ⟨false, outer⟩ rest := by
  unfold quote
  rw [List.flatMap_singleton]
  split
  · rename_i special
    exact readsAs_piece (readPiece_escaped special rest) rfl
  · rename_i plain
    exact readsAs_piece (readPiece_plain (Bool.eq_false_iff.2 plain) rest) rfl

/-- A quoted word is read as its characters. -/
theorem readsAs_quote (word : List Char) (outer : List Bool) (rest : List Char) :
    ReadsAs ⟨false, outer⟩ (quote word) (word.map fun c ↦ .literal c false) ⟨false, outer⟩
      rest := by
  induction word with
  | nil => exact readsAs_nil _ rest
  | cons c word ih =>
    have quote_eq : quote (c :: word) = quote [c] ++ quote word := by
      simp only [quote, List.flatMap_cons, List.flatMap_nil, List.append_nil]
    rw [quote_eq]
    exact (readsAs_quotedCharacter c outer (quote word ++ rest)).append ih

theorem head?_quote_ne (word rest : List Char) : (quote word ++ ')' :: rest).head? ≠ some '?' := by
  cases word with
  | nil => simp [quote]
  | cons c word =>
    unfold quote
    rw [List.flatMap_cons]
    split
    · simp
    · rename_i plain
      rintro same
      cases same
      exact plain rfl

theorem readGroup_plain (h : text.head? ≠ some '?') :
    readGroup false text = some (.openGroup none [], text) := by
  unfold readGroup
  rw [skip, if_neg Bool.false_ne_true]
  split
  all_goals first | rfl | exact absurd rfl h

def groupPieces (word : List Char) : List Piece :=
  .openGroup none [] :: ((word.map fun c ↦ .literal c false) ++ [.closeGroup])

/-- A quoted word in parentheses is read as a group of its characters. -/
theorem readsAs_group (word rest : List Char) :
    ReadsAs ⟨false, []⟩ ('(' :: quote word ++ [')']) (groupPieces word) ⟨false, []⟩ rest := by
  have opening : ReadsAs ⟨false, []⟩ ['('] [.openGroup none []] ⟨false, [false]⟩
      (quote word ++ [')'] ++ rest) := by
    apply readsAs_piece _ rfl
    rw [List.append_assoc]
    exact readGroup_plain (head?_quote_ne word rest)
  have closing : ReadsAs ⟨false, [false]⟩ [')'] [.closeGroup] ⟨false, []⟩ rest :=
    readsAs_piece rfl rfl
  exact opening.append ((readsAs_quote word [false] ([')'] ++ rest)).append closing)

theorem readsAs_bar (rest : List Char) : ReadsAs ⟨false, []⟩ ['|'] [.bar] ⟨false, []⟩ rest :=
  readsAs_piece rfl rfl

/-- The pieces of further groups, each behind a bar. -/
def barredPieces (words : List (List Char)) : List Piece :=
  words.flatMap fun word ↦ .bar :: groupPieces word

theorem readsAs_barred (words : List (List Char)) (rest : List Char) :
    ReadsAs ⟨false, []⟩ (words.flatMap fun word ↦ '|' :: ('(' :: quote word ++ [')']))
      (barredPieces words) ⟨false, []⟩ rest := by
  induction words with
  | nil => exact readsAs_nil _ rest
  | cons word words ih =>
    unfold barredPieces
    rw [List.flatMap_cons, List.flatMap_cons]
    refine ReadsAs.append ?_ ih
    exact (readsAs_bar _).append (readsAs_group word _)

theorem intercalate_cons (separator first : List Char) (rest : List (List Char)) :
    separator.intercalate (first :: rest) = first ++ rest.flatMap (separator ++ ·) := by
  induction rest generalizing first with
  | nil => simp [List.intercalate]
  | cons second rest ih =>
    rw [List.flatMap_cons, List.append_assoc, ← ih second]
    simp [List.intercalate, List.intersperse]

/-- The pieces of quoted words in groups. -/
theorem pieces?_writeGroups (first : List Char) (rest : List (List Char)) :
    pieces? (writeGroups ((first :: rest).map quote)) =
      some (groupPieces first ++ barredPieces rest) := by
  have all := (readsAs_group first _).append (readsAs_barred rest [])
  unfold ReadsAs at all
  have written : writeGroups ((first :: rest).map quote) =
      '(' :: quote first ++ [')'] ++
        rest.flatMap fun word ↦ '|' :: ('(' :: quote word ++ [')']) := by
    unfold writeGroups
    rw [List.map_cons, List.map_cons, intercalate_cons, List.map_map, List.flatMap_map]
    rfl
  rw [List.append_nil, ← written] at all
  calc
    pieces? (writeGroups ((first :: rest).map quote)) =
        (readPieces ⟨false, []⟩ []).map (groupPieces first ++ barredPieces rest ++ ·) := all
    _ = some (groupPieces first ++ barredPieces rest) := by
      rw [readPieces]
      exact congrArg some (List.append_nil _)

end Pieces

/-! ## Putting the pieces together -/

def literal (flags : Flags) (word : List Char) : Regex :=
  word.foldl (fun regex c ↦ .cat regex (.char (literalMembers flags c))) .empty

def alternation (flags : Flags) (first : List Char) (rest : List (List Char)) : Regex :=
  rest.foldl (fun regex word ↦ .alt regex (.cat .empty (literal flags word)))
    (.cat .empty (literal flags first))

section Assembling

/-- Literal characters are added to the branch that is being assembled. -/
theorem step_literals (word : List Char) (assembly : Assembly) :
    ∃ inner : OpenGroup,
      (word.map fun c ↦ Piece.literal c false).foldlM Assembly.step assembly =
        some { assembly with inner } ∧
      inner.branches = assembly.inner.branches ∧
      inner.branch = word.foldl
        (fun regex c ↦ .cat regex (.char (literalMembers assembly.inner.flags c)))
        assembly.inner.branch := by
  induction word generalizing assembly with
  | nil => exact ⟨assembly.inner, rfl, rfl, rfl⟩
  | cons c word ih =>
    obtain ⟨inner, run, branches, branch⟩ :=
      ih (assembly.add (.char (literalMembers assembly.inner.flags c)))
    refine ⟨inner, ?_, branches, branch⟩
    have step : assembly.step (.literal c false) =
        some (assembly.add (.char (literalMembers assembly.inner.flags c))) := by
      simp [Assembly.step, literal?]
    rw [List.map_cons, List.foldlM_cons, step]
    exact run

/-- A group of literal characters is assembled as the word. -/
theorem step_group (word : List Char) (assembly : Assembly) :
    (groupPieces word).foldlM Assembly.step assembly =
      some (assembly.add (literal assembly.inner.flags word)) := by
  obtain ⟨inner, run, branches, branch⟩ :=
    step_literals word ⟨.start assembly.inner.flags, assembly.inner :: assembly.outer⟩
  have value : inner.value = literal assembly.inner.flags word := by
    rw [OpenGroup.value, branches]
    exact branch
  have opened : assembly.step (.openGroup none []) =
      some ⟨.start assembly.inner.flags, assembly.inner :: assembly.outer⟩ := rfl
  calc
    (groupPieces word).foldlM Assembly.step assembly =
        ((word.map fun c ↦ Piece.literal c false) ++ [Piece.closeGroup]).foldlM Assembly.step
          ⟨.start assembly.inner.flags, assembly.inner :: assembly.outer⟩ := by
      rw [groupPieces, List.foldlM_cons, opened]
      rfl
    _ = [Piece.closeGroup].foldlM Assembly.step ⟨inner, assembly.inner :: assembly.outer⟩ := by
      rw [List.foldlM_append, run]
      rfl
    _ = some (assembly.add inner.value) := rfl
    _ = some (assembly.add (literal assembly.inner.flags word)) := by rw [value]

/-- Each further word becomes one more alternative. -/
theorem step_alternatives (words : List (List Char)) (group : OpenGroup) :
    ∃ inner : OpenGroup,
      (barredPieces words).foldlM Assembly.step ⟨group, []⟩ = some ⟨inner, []⟩ ∧
      inner.value = words.foldl
        (fun regex word ↦ .alt regex (.cat .empty (literal group.flags word))) group.value := by
  induction words generalizing group with
  | nil => exact ⟨group, rfl, rfl⟩
  | cons word words ih =>
    obtain ⟨inner, run, value⟩ := ih (group.bar.add (literal group.flags word))
    refine ⟨inner, ?_, value⟩
    have barred : Assembly.step ⟨group, []⟩ .bar = some ⟨group.bar, []⟩ := rfl
    have added := step_group word ⟨group.bar, []⟩
    unfold barredPieces at run ⊢
    rw [List.flatMap_cons, List.cons_append, List.foldlM_cons, barred, Option.bind_eq_bind,
      Option.bind_some, List.foldlM_append, added, Option.bind_eq_bind, Option.bind_some]
    exact run

theorem groupName?_of_mem_pieces {first : List Char} {rest : List (List Char)} {piece : Piece}
    (h : piece ∈ groupPieces first ++ barredPieces rest) : piece.groupName? = none := by
  have group : ∀ word, piece ∈ groupPieces word → piece.groupName? = none := by
    intro word member
    simp only [groupPieces, List.mem_cons, List.mem_append, List.mem_map, List.not_mem_nil,
      or_false] at member
    rcases member with rfl | ⟨c, _, rfl⟩ | rfl
    · rfl
    · rfl
    · rfl
  rcases List.mem_append.1 h with here | later
  · exact group first here
  · obtain ⟨word, _, member⟩ := List.mem_flatMap.1 later
    rcases List.mem_cons.1 member with rfl | inside
    · rfl
    · exact group word inside

/-- Quoted words in groups are a regular expression, the alternation of the words. -/
theorem compile?_writeGroups (first : List Char) (rest : List (List Char))
    (caseInsensitive : Bool) :
    compile? (writeGroups ((first :: rest).map quote)) caseInsensitive =
      some (alternation { caseInsensitive } first rest) := by
  let flags : Flags := { caseInsensitive }
  obtain ⟨inner, run, value⟩ :=
    step_alternatives rest ((OpenGroup.start flags).add (literal flags first))
  have assembled : (groupPieces first ++ barredPieces rest).foldlM Assembly.step
      ⟨.start flags, []⟩ = some ⟨inner, []⟩ := by
    rw [List.foldlM_append, step_group, Option.bind_eq_bind, Option.bind_some]
    exact run
  have unnamed : (groupPieces first ++ barredPieces rest).filterMap Piece.groupName? = [] :=
    List.filterMap_eq_nil_iff.2 fun piece ↦ groupName?_of_mem_pieces
  calc
    compile? (writeGroups ((first :: rest).map quote)) caseInsensitive =
        ofPieces? flags (groupPieces first ++ barredPieces rest) := by
      rw [compile?, pieces?_writeGroups]
      rfl
    _ = some inner.value := by
      rw [ofPieces?, assembled, Option.bind_eq_bind, Option.bind_some, unnamed,
        if_pos List.nodup_nil]
      rfl
    _ = some (alternation flags first rest) := congrArg some value

end Assembling

/-! ## Matching words -/

def sameCharacter (caseSensitive : Bool) (c d : Char) : Bool :=
  if caseSensitive then c == d else Unicode.simpleFold c == Unicode.simpleFold d

/-- The text begins with the word, character by character. -/
def standsAt (caseSensitive : Bool) : List Char → List Char → Bool
  | [], _ => true
  | _ :: _, [] => false
  | c :: word, d :: text => sameCharacter caseSensitive c d && standsAt caseSensitive word text

section Matching

variable {flags : Flags} {caseSensitive : Bool} {text word : List Char}

theorem loopFree_literal (flags : Flags) (word : List Char) : (literal flags word).LoopFree := by
  have extend : ∀ regex : Regex, regex.LoopFree → (word.foldl
      (fun regex c ↦ .cat regex (.char (literalMembers flags c))) regex).LoopFree := by
    induction word with
    | nil => exact fun _ loopFree ↦ loopFree
    | cons c word ih => exact fun regex loopFree ↦ ih _ ⟨loopFree, trivial⟩
  exact extend .empty trivial

/-- There is no loop in an alternation of words. -/
theorem loopFree_alternation (flags : Flags) (first : List Char) (rest : List (List Char)) :
    (alternation flags first rest).LoopFree := by
  have extend : ∀ regex : Regex, regex.LoopFree → (rest.foldl
      (fun regex word ↦ .alt regex (.cat .empty (literal flags word))) regex).LoopFree := by
    induction rest with
    | nil => exact fun _ loopFree ↦ loopFree
    | cons word rest ih =>
      exact fun regex loopFree ↦ ih _ ⟨loopFree, trivial, loopFree_literal flags word⟩
  exact extend _ ⟨trivial, loopFree_literal flags first⟩

theorem ends_character (c : Char) (place : Nat) :
    ends text.toArray (.char (literalMembers { caseInsensitive := !caseSensitive } c)) place =
      if (text.drop place).head?.any (sameCharacter caseSensitive c) then [place + 1] else [] := by
  have members : literalMembers { caseInsensitive := !caseSensitive } c =
      sameCharacter caseSensitive c := by
    funext d
    unfold literalMembers sameCharacter
    cases caseSensitive with
    | true => exact Bool.beq_comm
    | false => exact Bool.beq_comm
  rw [ends, List.getElem?_toArray, List.head?_drop, members]

/-- Where a word can end behind an expression. -/
theorem ends_foldl_literal (regex : Regex) (place : Nat) :
    ends text.toArray (word.foldl (fun regex c ↦
      .cat regex (.char (literalMembers { caseInsensitive := !caseSensitive } c))) regex) place =
      (ends text.toArray regex place).flatMap fun middle ↦
        if standsAt caseSensitive word (text.drop middle) then [middle + word.length] else [] := by
  induction word generalizing regex with
  | nil => exact (List.flatMap_singleton' _).symm
  | cons c word ih =>
    rw [List.foldl_cons, ih, ends, List.flatMap_assoc]
    congr 1
    funext middle
    rw [ends_character]
    cases after_eq : text.drop middle with
    | nil => rfl
    | cons d after =>
      have drop_eq : text.drop (middle + 1) = after := by
        rw [← List.drop_drop, after_eq, List.drop_one, List.tail_cons]
      rw [List.head?_cons, Option.any_some, standsAt]
      cases sameCharacter caseSensitive c d with
      | false => rfl
      | true =>
        rw [if_pos rfl, List.flatMap_singleton, drop_eq, Bool.true_and, List.length_cons,
          Nat.add_right_comm, Nat.add_assoc]

theorem ends_literal (word : List Char) (place : Nat) :
    ends text.toArray (.cat .empty (literal { caseInsensitive := !caseSensitive } word)) place =
      if standsAt caseSensitive word (text.drop place) then [place + word.length] else [] := by
  calc
    ends text.toArray (.cat .empty (literal { caseInsensitive := !caseSensitive } word)) place =
        ends text.toArray (literal { caseInsensitive := !caseSensitive } word) place := by
      rw [ends, ends, List.flatMap_singleton]
    _ = if standsAt caseSensitive word (text.drop place) then [place + word.length] else [] := by
      rw [literal, ends_foldl_literal, ends, List.flatMap_singleton]

/-- An alternation ends where one of the words does, with the ends in the order of the words. -/
theorem ends_alternation (first : List Char) (rest : List (List Char)) (place : Nat) :
    ends text.toArray (alternation { caseInsensitive := !caseSensitive } first rest) place =
      (first :: rest).flatMap fun word ↦
        if standsAt caseSensitive word (text.drop place) then [place + word.length] else [] := by
  have extend : ∀ regex : Regex, ends text.toArray (rest.foldl (fun regex word ↦
      .alt regex (.cat .empty (literal { caseInsensitive := !caseSensitive } word))) regex) place =
      ends text.toArray regex place ++ rest.flatMap fun word ↦
        if standsAt caseSensitive word (text.drop place) then [place + word.length] else [] := by
    induction rest with
    | nil => exact fun _ ↦ (List.append_nil _).symm
    | cons word rest ih =>
      intro regex
      rw [List.foldl_cons, ih, ends, ends_literal, List.append_assoc, List.flatMap_cons]
  rw [alternation, extend, ends_literal, List.flatMap_cons]

/-- The search ends behind the first of the words that stands at its start. -/
theorem matchEnd?_alternation (first : List Char) (rest : List (List Char)) {start : Nat}
    (h : start ≤ text.length) :
    (alternation { caseInsensitive := !caseSensitive } first rest).matchEnd? text.toArray start =
      ((first :: rest).find? fun word ↦ standsAt caseSensitive word (text.drop start)).map
        fun word ↦ start + word.length := by
  have inside : start ≤ text.toArray.size := by rwa [List.size_toArray]
  rw [matchEnd?_eq_head? (loopFree_alternation _ first rest) inside, ends_alternation,
    List.head?_flatMap]
  induction first :: rest with
  | nil => rfl
  | cons word words ih =>
    rw [List.findSome?_cons, ih, List.find?_cons]
    cases standsAt caseSensitive word (text.drop start) with
    | true => rfl
    | false => rfl

end Matching

end RecordSearch.Regex
