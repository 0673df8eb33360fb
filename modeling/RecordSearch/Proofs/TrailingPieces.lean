import RecordSearch.Proofs.Trailing

/-!
# What stands behind the pieces of a text

No bracket, group or repetition that is complete is read in another way because a parenthesis closes
behind it.  Where a reader tries one form before another, the parenthesis does not complete the form
that fails, either.
-/

namespace RecordSearch.Regex

open Unicode (isBlank)

/-! ## Brackets -/

/-- The start of a bracket, behind the caret if there is one. -/
def readHyphens (verbose negated : Bool) (text : List Char) : OpenBracket × List Char :=
  let (hyphens, text) := collect verbose (fun c ↦ c == '-') text
  if hyphens.isEmpty then
    match text with
    | ']' :: rest => (⟨negated, none, .char ']'⟩, skip verbose rest)
    | _ => (⟨negated, none, .empty⟩, text)
  else (⟨negated, none, .char '-'⟩, text)

section Opening

variable {verbose : Bool} {text rest : List Char}

theorem readOpening_caret (h : skip verbose text = '^' :: rest) :
    readOpening verbose text = readHyphens verbose true (skip verbose rest) := by
  unfold readOpening
  rw [h]
  rfl

theorem readOpening_plain (h : ∀ rest, skip verbose text ≠ '^' :: rest) :
    readOpening verbose text = readHyphens verbose false (skip verbose text) := by
  unfold readOpening
  split
  rename_i start
  split at start
  · rename_i caret
    exact absurd caret (h _)
  · cases start
    rfl

end Opening

/-- A named ASCII set, behind the colon and the caret if there is one. -/
def readSetName (negated : Bool) (text : List Char) : Option (CharSet × List Char) :=
  match text.span fun c ↦ c != ':' with
  | (name, ':' :: ']' :: rest) =>
    (asciiSet? (String.ofList name)).map fun members ↦ (.ascii members negated, rest)
  | _ => none

def readSetBehindColon (text : List Char) : Option (CharSet × List Char) :=
  match text with
  | '^' :: rest => readSetName true rest
  | rest => readSetName false rest

theorem readSetBehindColon_plain {text : List Char} (h : ∀ rest, text ≠ '^' :: rest) :
    readSetBehindColon text = readSetName false text := by
  unfold readSetBehindColon
  split
  · exact absurd rfl (h _)
  · rfl

theorem readAsciiSet_colon (text : List Char) :
    readAsciiSet (':' :: text) = readSetBehindColon text := by
  by_cases caret : ∃ rest, text = '^' :: rest
  · obtain ⟨rest, rfl⟩ := caret
    rfl
  · rw [not_exists] at caret
    rw [readSetBehindColon_plain caret]
    unfold readAsciiSet
    split
    · rename_i same
      cases same
      split
      rename_i start
      split at start
      · exact absurd rfl (caret _)
      · cases start
        rfl
    · rename_i noColon
      exact absurd rfl (noColon _)

theorem readAsciiSet_other {text : List Char} (h : ∀ rest, text ≠ ':' :: rest) :
    readAsciiSet text = none := by
  unfold readAsciiSet
  split
  · exact absurd rfl (h _)
  · rfl

section Bracket

variable {c : Char} {text text' rest : List Char} {longer : Enclosure → List Char}
  {property : Char → Bool}

theorem trails_readHyphens (h : Trails text longer) (verbose negated : Bool) :
    ∃ longer', Trails (readHyphens verbose negated text).2 longer' ∧
      ∀ enclosure, readHyphens verbose negated (longer enclosure) =
        ((readHyphens verbose negated text).1, longer' enclosure) := by
  obtain ⟨others, trails, found⟩ := h.collect verbose (fun c ↦ c == '-') (.inl (by decide))
  unfold readHyphens
  simp only [found]
  split
  · split
    · rename_i rest_eq
      rw [rest_eq] at trails
      obtain ⟨longer', trails, ends⟩ := trails.tail
      refine ⟨_, trails.skip verbose, fun enclosure ↦ ?_⟩
      rw [ends]
      rfl
    · rename_i noBracket
      refine ⟨_, trails, fun enclosure ↦ ?_⟩
      split
      · rename_i same
        exact absurd same (trails.ne_cons (by decide) noBracket enclosure _)
      · rfl
  · exact ⟨_, trails, fun enclosure ↦ rfl⟩

theorem trails_readOpening (h : Trails text longer) (verbose : Bool) :
    ∃ longer', Trails (readOpening verbose text).2 longer' ∧
      ∀ enclosure, readOpening verbose (longer enclosure) =
        ((readOpening verbose text).1, longer' enclosure) := by
  replace h := h.skip verbose
  by_cases caret : ∃ rest, skip verbose text = '^' :: rest
  · obtain ⟨rest, text_eq⟩ := caret
    rw [text_eq] at h
    obtain ⟨longer', trails, ends⟩ := h.tail
    rw [readOpening_caret text_eq]
    simp only [fun enclosure ↦ readOpening_caret (ends enclosure)]
    exact trails_readHyphens (trails.skip verbose) verbose true
  · rw [not_exists] at caret
    rw [readOpening_plain caret]
    simp only [fun enclosure ↦ readOpening_plain (h.ne_cons (by decide) caret enclosure)]
    exact trails_readHyphens h verbose false

theorem local_readSetName (negated : Bool) : Local (readSetName negated) := by
  intro text longer members rest trails read
  unfold readSetName at read ⊢
  split at read
  · rename_i name rest' run
    obtain ⟨others, trails, ends⟩ := trails.span_cons run
    obtain ⟨longer', trails, ends'⟩ := trails.tail
    obtain ⟨members', known, found⟩ := Option.map_eq_some_iff.1 read
    cases found
    refine ⟨longer', trails, fun enclosure ↦ ?_⟩
    simp only [ends, ends', known]
    rfl
  · cases read

/-- A run that ends in an enclosed text, but not in the enclosure, ends there in the text, too. -/
theorem Trails.span_of_longer (h : Trails text longer) {enclosure : Enclosure}
    (passes : enclosure.behind.dropWhile property = [])
    (ends : (longer enclosure).span property = (text', c :: rest)) :
    ∃ rest, text.span property = (text', c :: rest) := by
  rw [List.span_eq_takeWhile_dropWhile, Prod.mk.injEq] at ends
  obtain ⟨run, behind⟩ := ends
  cases h with
  | lost h =>
    rw [h] at behind
    cases behind
  | kept h =>
    rw [h, List.dropWhile_append] at behind
    split at behind
    · rw [passes] at behind
      cases behind
    · rename_i inside
      have inside_ne : text.dropWhile property ≠ [] := fun none ↦ inside (List.isEmpty_iff.2 none)
      obtain ⟨d, rest', text_eq⟩ := List.exists_cons_of_ne_nil inside_ne
      have length_ne : (text.takeWhile property).length ≠ text.length := by
        intro same
        have := congrArg List.length (List.takeWhile_append_dropWhile (p := property) (l := text))
        rw [List.length_append, text_eq, List.length_cons] at this
        omega
      rw [h, List.takeWhile_append, if_neg length_ne] at run
      rw [text_eq] at behind
      cases behind
      exact ⟨rest', by rw [List.span_eq_takeWhile_dropWhile, run, text_eq]⟩

/-- What stands behind a text cannot make its start a named set. -/
theorem Trails.readSetName_none (h : Trails text longer) {negated : Bool}
    (fails : readSetName negated text = none) (enclosure : Enclosure) :
    readSetName negated (longer enclosure) = none := by
  have passes : enclosure.behind.dropWhile (fun c ↦ c != ':') = [] := by
    cases enclosure <;> decide
  unfold readSetName at fails ⊢
  split
  · rename_i name rest run
    obtain ⟨rest', ends⟩ := h.span_of_longer passes run
    obtain ⟨longer', trails, ends'⟩ := h.span_cons ends
    rw [ends', Prod.mk.injEq, List.cons.injEq] at run
    split at fails
    · rename_i ends''
      rw [ends] at ends''
      cases ends''
      rw [Option.map_eq_none_iff] at fails ⊢
      exact fails
    · rename_i noBracket
      refine absurd run.2.2 (trails.ne_cons (by decide) (fun rest same ↦ ?_) enclosure rest)
      rw [same] at ends
      exact noBracket _ _ ends
  · rfl

theorem local_readSetBehindColon : Local readSetBehindColon := by
  refine (local_readSetName true).of_head (local_readSetName false) false (c := '^') (by decide)
    (fun text_eq ↦ ?_) readSetBehindColon_plain
  cases text_eq
  rfl

theorem Trails.readSetBehindColon_none (h : Trails text longer)
    (fails : readSetBehindColon text = none) (enclosure : Enclosure) :
    readSetBehindColon (longer enclosure) = none := by
  by_cases caret : ∃ rest, text = '^' :: rest
  · obtain ⟨rest, rfl⟩ := caret
    obtain ⟨longer', trails, ends⟩ := h.tail
    rw [ends]
    exact trails.readSetName_none fails enclosure
  · rw [not_exists] at caret
    rw [readSetBehindColon_plain caret] at fails
    rw [readSetBehindColon_plain (h.ne_cons (by decide) caret enclosure)]
    exact h.readSetName_none fails enclosure

theorem local_readAsciiSet : Local readAsciiSet := by
  have other : Local fun _ ↦ (none : Option (CharSet × List Char)) := fun _ _ _ _ _ ↦ nofun
  refine local_readSetBehindColon.of_head other false (c := ':') (by decide) (fun text_eq ↦ ?_)
    readAsciiSet_other
  cases text_eq
  exact readAsciiSet_colon _

/-- The enclosure does not complete the name of a set. -/
theorem Trails.readAsciiSet_none (h : Trails text longer) (fails : readAsciiSet text = none)
    (enclosure : Enclosure) : readAsciiSet (longer enclosure) = none := by
  by_cases colon : ∃ rest, text = ':' :: rest
  · obtain ⟨rest, rfl⟩ := colon
    obtain ⟨longer', trails, ends⟩ := h.tail
    rw [readAsciiSet_colon] at fails
    rw [ends, readAsciiSet_colon]
    exact trails.readSetBehindColon_none fails enclosure
  · exact readAsciiSet_other (h.ne_cons (by decide) (not_exists.1 colon) enclosure)

theorem local_readMember (verbose : Bool) : Local (readMember verbose) := by
  intro text longer piece rest trails read
  unfold readMember at read
  split at read
  · cases read
  · obtain ⟨longer', trails, ends⟩ := trails.tail
    obtain ⟨others, trails, found⟩ := local_readEscape verbose trails read
    refine ⟨others, trails, fun enclosure ↦ ?_⟩
    rw [ends, readMember, found]
  · rename_i noBackslash
    cases read
    obtain ⟨longer', trails, ends⟩ := trails.tail
    refine ⟨longer', trails, fun enclosure ↦ ?_⟩
    rw [ends]
    simp only [readMember]

/-- The look past a hyphen is the same, unless it sees the parenthesis, which makes no difference
there. -/
theorem Trails.nextSignificant?_eq_iff (h : Trails text longer) (verbose : Bool) (other : c ≠ ')')
    (enclosure : Enclosure) :
    nextSignificant? verbose (longer enclosure) = some c ↔
      nextSignificant? verbose text = some c := by
  unfold nextSignificant?
  split
  · replace h := h.dropWhile isBlank_closing
    by_cases comment : ∃ inside, text.dropWhile isBlank = '#' :: inside
    · obtain ⟨inside, text_eq⟩ := comment
      rw [text_eq] at h
      obtain ⟨longer', trails, ends⟩ := h.tail
      rw [ends, text_eq]
      exact (trails.dropWhile isBlank_closing).head?_eq_iff other enclosure
    · rw [not_exists] at comment
      split
      · rename_i longer_eq
        exact absurd longer_eq (h.ne_cons (by decide) comment enclosure _)
      · exact h.head?_eq_iff other enclosure
  · exact h.head?_eq_iff other enclosure

def singleItem? (member : Piece) : Option CharSet :=
  match member with
  | .literal c _ => some (.char c)
  | .set members => some members
  | _ => none

def rangeItem? (first last : Piece) : Option CharSet :=
  match first, last with
  | .literal first _, .literal last _ => if first ≤ last then some (.range first last) else none
  | _, _ => none

/-- Goes on behind a member; a hyphen makes it the start of a range, unless it is an item, too. -/
def readRange (verbose : Bool) (first : Piece) (text : List Char) : Option (CharSet × List Char) :=
  match skip verbose text with
  | '-' :: behind =>
    if nextSignificant? verbose behind = some ']' ∨ nextSignificant? verbose behind = some '-' then
      (singleItem? first).map (·, skip verbose text)
    else
      (readMember verbose (skip verbose behind)).bind fun (last, rest) ↦
        (rangeItem? first last).map (·, rest)
  | _ => (singleItem? first).map (·, skip verbose text)

theorem readRange_single {verbose : Bool} {text : List Char}
    (h : ∀ rest, skip verbose text ≠ '-' :: rest) (first : Piece) :
    readRange verbose first text = (singleItem? first).map (·, skip verbose text) := by
  unfold readRange
  split
  · rename_i hyphen
    exact absurd hyphen (h _)
  · rfl

theorem readItem_eq (verbose : Bool) (text : List Char) :
    readItem verbose text =
      (readMember verbose text).bind fun read ↦ readRange verbose read.1 read.2 := by
  unfold readItem
  cases readMember verbose text with
  | none => rfl
  | some read =>
    obtain ⟨first, rest⟩ := read
    simp only [Option.bind_eq_bind, Option.bind_some]
    by_cases hyphen : ∃ behind, skip verbose rest = '-' :: behind
    · obtain ⟨behind, behind_eq⟩ := hyphen
      unfold readRange
      simp only [behind_eq]
      split
      · rename_i same
        rw [if_pos (.inl same)]
        cases first <;> rfl
      · rename_i same
        rw [if_pos (.inr same)]
        cases first <;> rfl
      · rename_i noBracket noHyphen
        rw [if_neg (not_or.2 ⟨noBracket, noHyphen⟩)]
        congr 1
        funext behindHyphen
        obtain ⟨last, rest⟩ := behindHyphen
        grind [rangeItem?]
    · rw [readRange_single (not_exists.1 hyphen)]
      split
      · rename_i same
        exact absurd ⟨_, same⟩ hyphen
      · cases first <;> rfl

theorem local_readRange (verbose : Bool) (first : Piece) : Local (readRange verbose first) := by
  have single : Local fun text ↦ (singleItem? first).map (·, text) := by
    intro text longer item rest trails read
    obtain ⟨item', valid, found⟩ := Option.map_eq_some_iff.1 read
    cases found
    refine ⟨longer, trails, fun enclosure ↦ ?_⟩
    simp only [valid]
    rfl
  intro text longer item rest trails read
  replace trails := trails.skip verbose
  by_cases hyphen : ∃ behind, skip verbose text = '-' :: behind
  · obtain ⟨behind, behind_eq⟩ := hyphen
    have behind_trails := trails
    rw [behind_eq] at behind_trails
    obtain ⟨longer', behind_trails, ends⟩ := behind_trails.tail
    have next := fun enclosure ↦ behind_trails.nextSignificant?_eq_iff verbose
      (by decide : ']' ≠ ')') enclosure
    have next' := fun enclosure ↦ behind_trails.nextSignificant?_eq_iff verbose
      (by decide : '-' ≠ ')') enclosure
    unfold readRange at read ⊢
    simp only [behind_eq, ends, next, next'] at read ⊢
    split at read
    · rename_i isSingle
      simp only [if_pos isSingle, ← behind_eq, ← ends] at read ⊢
      exact single trails read
    · rename_i isRange
      simp only [if_neg isRange]
      obtain ⟨⟨last, rest'⟩, readLast, read⟩ := Option.bind_eq_some_iff.1 read
      obtain ⟨others, trails', found⟩ :=
        local_readMember verbose (behind_trails.skip verbose) readLast
      obtain ⟨item', valid, found'⟩ := Option.map_eq_some_iff.1 read
      cases found'
      refine ⟨_, trails', fun enclosure ↦ ?_⟩
      rw [found, Option.bind_some, valid]
      rfl
  · rw [not_exists] at hyphen
    rw [readRange_single hyphen] at read
    simp only [fun enclosure ↦ readRange_single (trails.ne_cons (by decide) hyphen enclosure)]
    exact single trails read

/-- The reader of items finds the same in the enclosed texts. -/
theorem local_readItem (verbose : Bool) : Local (readItem verbose) := by
  intro text longer item rest trails read
  simp only [readItem_eq] at read ⊢
  obtain ⟨⟨first, behind⟩, readFirst, read⟩ := Option.bind_eq_some_iff.1 read
  obtain ⟨longer', trails, found⟩ := local_readMember verbose trails readFirst
  simp only [found, Option.bind_some]
  exact local_readRange verbose first trails read

theorem local_readOperator : Local readOperator := by
  intro text longer operator rest trails read
  unfold readOperator at read
  split at read
  all_goals cases read
  all_goals
    obtain ⟨longer', trails, ends⟩ := trails.tail
    obtain ⟨longer'', trails, ends'⟩ := trails.tail
    exact ⟨longer'', trails, fun enclosure ↦ by rw [ends, ends', readOperator]⟩

/-- The enclosure does not complete an operator. -/
theorem Trails.readOperator_none (h : Trails text longer) (fails : readOperator text = none)
    (enclosure : Enclosure) : readOperator (longer enclosure) = none := by
  rcases h.elim with ⟨-, ends⟩ | ⟨-, ends⟩ | ⟨c, rest, longer', rfl, trails, ends⟩
  · rw [ends]
    rfl
  · rw [ends]
    rfl
  · rw [ends]
    rcases trails.elim with ⟨-, ends'⟩ | ⟨-, ends'⟩ | ⟨d, rest, longer', rfl, -, ends'⟩
    all_goals
      rw [ends']
      unfold readOperator at fails ⊢
      grind

/-- What a step in a bracket leads to: the set that is written, if no bracket is open any more, or
the open brackets, from the inside out. -/
abbrev BracketStep := CharSet ⊕ (List OpenBracket × OpenBracket)

def closeBracket (outer : List OpenBracket) (inner : OpenBracket) : BracketStep :=
  match outer with
  | [] => .inl (.bracket inner.value inner.negated)
  | parent :: outer => .inr (outer, parent.add (.bracket inner.value inner.negated))

/-- A named set or the start of another bracket, behind an opening bracket. -/
def readNested (verbose : Bool) (outer : List OpenBracket) (inner : OpenBracket)
    (text : List Char) : Option (BracketStep × List Char) :=
  match readAsciiSet text with
  | some (item, rest) => some (.inr (outer, inner.add item), rest)
  | none =>
    let (opened, rest) := readOpening verbose text
    some (.inr (inner :: outer, opened), rest)

def readInside (verbose : Bool) (outer : List OpenBracket) (inner : OpenBracket)
    (text : List Char) : Option (BracketStep × List Char) :=
  match readOperator text with
  | some (operator, rest) => some (.inr (outer, inner.combine operator), rest)
  | none => (readItem verbose text).map fun (item, rest) ↦ (.inr (outer, inner.add item), rest)

/-- A part of a bracket that does not close it. -/
def readContent (verbose : Bool) (outer : List OpenBracket) (inner : OpenBracket)
    (text : List Char) : Option (BracketStep × List Char) :=
  match text with
  | '[' :: rest => readNested verbose outer inner rest
  | current => readInside verbose outer inner current

def readBracketStep (verbose : Bool) (outer : List OpenBracket) (inner : OpenBracket)
    (text : List Char) : Option (BracketStep × List Char) :=
  match skip verbose text with
  | ']' :: rest => some (closeBracket outer inner, rest)
  | current => readContent verbose outer inner current

section Steps

variable (verbose : Bool) (outer : List OpenBracket) (inner : OpenBracket) {text : List Char}

theorem readContent_inside (noStart : ∀ rest, text ≠ '[' :: rest) :
    readContent verbose outer inner text = readInside verbose outer inner text := by
  unfold readContent
  split
  · exact absurd rfl (noStart _)
  · rfl

theorem readBracketStep_content (noEnd : ∀ rest, skip verbose text ≠ ']' :: rest) :
    readBracketStep verbose outer inner text =
      readContent verbose outer inner (skip verbose text) := by
  unfold readBracketStep
  split
  · rename_i closing
    exact absurd closing (noEnd _)
  · rfl

/-- A bracket is read step by step. -/
theorem readBracket_eq (text : List Char) :
    readBracket verbose outer inner text =
      match readBracketStep verbose outer inner text with
      | none => none
      | some (.inl members, rest) => some (members, rest)
      | some (.inr (outer, inner), rest) =>
        if rest.length < text.length then readBracket verbose outer inner rest else none := by
  rw [readBracket.eq_def]
  split
  · rename_i text_eq
    rw [readBracketStep, text_eq]
    rfl
  · rename_i text_eq
    rw [readBracketStep, text_eq]
    cases outer with
    | nil => rfl
    | cons parent outer => rfl
  · rename_i rest text_eq
    have nested : readBracketStep verbose outer inner text = readNested verbose outer inner rest := by
      rw [readBracketStep, text_eq]
      rfl
    rw [nested, readNested]
    cases readAsciiSet rest with
    | none => rfl
    | some named => rfl
  · rename_i noEnd noStart
    rw [readBracketStep_content verbose outer inner noEnd,
      readContent_inside verbose outer inner noStart, readInside]
    cases readOperator (skip verbose text) with
    | some combines => rfl
    | none =>
      cases readItem verbose (skip verbose text) with
      | none => rfl
      | some single => rfl

theorem local_readNested : Local (readNested verbose outer inner) := by
  intro text longer found rest trails read
  unfold readNested at read ⊢
  split at read
  · rename_i item behind named
    cases read
    obtain ⟨longer', trails, named'⟩ := local_readAsciiSet trails named
    exact ⟨longer', trails, fun enclosure ↦ by rw [named']⟩
  · rename_i unnamed
    have unnamed' := trails.readAsciiSet_none unnamed
    obtain ⟨longer', trails, opening⟩ := trails_readOpening trails verbose
    rcases opening_eq : readOpening verbose text with ⟨opened, behind⟩
    rw [opening_eq] at read trails opening
    cases read
    exact ⟨longer', trails, fun enclosure ↦ by rw [unnamed', opening]⟩

theorem local_readInside : Local (readInside verbose outer inner) := by
  intro text longer found rest trails read
  unfold readInside at read ⊢
  split at read
  · rename_i operator behind combines
    cases read
    obtain ⟨longer', trails, combines'⟩ := local_readOperator trails combines
    exact ⟨longer', trails, fun enclosure ↦ by rw [combines']⟩
  · rename_i fails
    obtain ⟨⟨item, behind⟩, single, found⟩ := Option.map_eq_some_iff.1 read
    cases found
    have fails' := trails.readOperator_none fails
    obtain ⟨longer', trails, single'⟩ := local_readItem verbose trails single
    refine ⟨longer', trails, fun enclosure ↦ ?_⟩
    rw [fails', single']
    rfl

theorem local_readContent : Local (readContent verbose outer inner) :=
  (local_readNested verbose outer inner).of_head (local_readInside verbose outer inner) false
    (c := '[') (by decide) (fun text_eq ↦ congrArg (readContent verbose outer inner) text_eq)
    (readContent_inside verbose outer inner)

/-- A step of the reader of brackets finds the same in the enclosed texts. -/
theorem local_readBracketStep : Local (readBracketStep verbose outer inner) := by
  refine (local_some (closeBracket outer inner)).of_head (local_readContent verbose outer inner)
    verbose (c := ']') (by decide) (fun text_eq ↦ ?_) (readBracketStep_content verbose outer inner)
  rw [readBracketStep, text_eq]
  rfl

end Steps

/-- All of a bracket is read before the enclosure begins, with the brackets inside it. -/
theorem local_readBracket (verbose : Bool) (outer : List OpenBracket) (inner : OpenBracket) :
    Local (readBracket verbose outer inner) := by
  intro text longer members rest trails read
  generalize size_eq : text.length = size
  induction size using Nat.strongRecOn generalizing outer inner text longer with
  | ind size ih =>
    rw [readBracket_eq] at read
    split at read
    · cases read
    · rename_i closes
      cases read
      obtain ⟨longer', trails', closes'⟩ := local_readBracketStep verbose outer inner trails closes
      exact ⟨longer', trails', fun enclosure ↦ by rw [readBracket_eq, closes']⟩
    · rename_i outer' inner' behind goesOn
      split at read
      · rename_i shorter
        obtain ⟨longer', trails', goesOn'⟩ :=
          local_readBracketStep verbose outer inner trails goesOn
        obtain ⟨others, trails'', found⟩ :=
          ih behind.length (size_eq ▸ shorter) outer' inner' trails' read rfl
        refine ⟨others, trails'', fun enclosure ↦ ?_⟩
        rw [readBracket_eq, goesOn', ← found enclosure]
        exact if_pos (trails.length_lt trails' shorter enclosure)
      · cases read

end Bracket

/-! ## Groups and repetitions -/

theorem local_readGroupName : Local readGroupName := by
  intro text longer piece rest trails read
  unfold readGroupName at read ⊢
  split at read
  · rename_i name rest' run
    obtain ⟨longer', trails, ends⟩ := trails.span_cons run
    split at read
    · rename_i valid
      cases read
      refine ⟨longer', trails, fun enclosure ↦ ?_⟩
      simp only [ends, if_pos valid]
    · cases read
  · cases read

theorem local_readFlags : Local readFlags := by
  intro text longer piece rest trails read
  unfold readFlags at read ⊢
  split at read
  · rename_i letters rest' run
    obtain ⟨longer', trails, ends⟩ := trails.span_cons run
    obtain ⟨change, valid, found⟩ := Option.map_eq_some_iff.1 read
    cases found
    refine ⟨longer', trails, fun enclosure ↦ ?_⟩
    simp only [ends, valid]
    rfl
  · rename_i letters rest' run
    obtain ⟨longer', trails, ends⟩ := trails.span_cons run
    split at read
    · cases read
    · rename_i nonempty
      obtain ⟨change, valid, found⟩ := Option.map_eq_some_iff.1 read
      cases found
      refine ⟨longer', trails, fun enclosure ↦ ?_⟩
      simp only [ends, if_neg nonempty, valid]
      rfl
  · cases read

/-- What follows a question mark behind an opening parenthesis. -/
def readGroupKind (text : List Char) : Option (Piece × List Char) :=
  match text with
  | '=' :: _ => none
  | '!' :: _ => none
  | '<' :: '=' :: _ => none
  | '<' :: '!' :: _ => none
  | 'P' :: '<' :: rest => readGroupName rest
  | '<' :: rest => readGroupName rest
  | rest => readFlags rest

theorem readGroup_eq (verbose : Bool) (text : List Char) :
    readGroup verbose text =
      match skip verbose text with
      | '?' :: rest => readGroupKind rest
      | rest => some (.openGroup none [], rest) := by
  unfold readGroup readGroupKind
  grind

theorem readGroupKind_angle {text : List Char} (noEqual : ∀ rest, text ≠ '=' :: rest)
    (noBang : ∀ rest, text ≠ '!' :: rest) : readGroupKind ('<' :: text) = readGroupName text := by
  simp only [readGroupKind]

/-- No sign of looking around is completed by the enclosure, so what is a name or a change of flags
stays one. -/
theorem local_readGroupKind : Local readGroupKind := by
  intro text longer piece rest trails read
  rw [readGroupKind.eq_def] at read
  split at read
  · cases read
  · cases read
  · cases read
  · cases read
  · obtain ⟨longer', trails, ends⟩ := trails.tail
    obtain ⟨longer'', trails, ends'⟩ := trails.tail
    simp only [ends, ends', readGroupKind]
    exact local_readGroupName trails read
  · rename_i rest' noEqual noBang
    obtain ⟨longer', trails', ends⟩ := trails.tail
    obtain ⟨longer'', trails'', found⟩ := local_readGroupName trails' read
    refine ⟨longer'', trails'', fun enclosure ↦ ?_⟩
    have noEqual' := trails'.ne_cons (c := '=') (by decide) noEqual enclosure
    have noBang' := trails'.ne_cons (c := '!') (by decide) noBang enclosure
    rw [ends, readGroupKind_angle noEqual' noBang', found]
  · rename_i noEqual noBang _ _ noName noAngle
    obtain ⟨longer', trails', found⟩ := local_readFlags trails read
    refine ⟨longer', trails', fun enclosure ↦ ?_⟩
    unfold readGroupKind
    split
    · rename_i same
      exact absurd same (trails.ne_cons (by decide) noEqual enclosure _)
    · rename_i same
      exact absurd same (trails.ne_cons (by decide) noBang enclosure _)
    · rename_i same
      exact absurd same (trails.ne_cons (by decide) noAngle enclosure _)
    · rename_i same
      exact absurd same (trails.ne_cons (by decide) noAngle enclosure _)
    · rename_i same
      exact absurd same (trails.ne_cons_cons (by decide) (by decide) noName enclosure _)
    · rename_i same
      exact absurd same (trails.ne_cons (by decide) noAngle enclosure _)
    · exact found enclosure

/-- The reader of groups finds the same in the enclosed texts. -/
theorem local_readGroup (verbose : Bool) : Local (readGroup verbose) := by
  refine local_readGroupKind.of_head (local_some (Piece.openGroup none [])) verbose (c := '?')
    (by decide) (fun text_eq ↦ ?_) (fun noKind ↦ ?_)
  · rw [readGroup_eq, text_eq]
    rfl
  · rw [readGroup_eq]
    split
    · rename_i kind
      exact absurd kind (noKind _)
    · rfl

theorem local_withGreed (least : Nat) (most : Option Nat) :
    Local fun text ↦ some (withGreed least most text) := by
  refine (local_some (Piece.repetition least most true)).of_head
    (local_some (Piece.repetition least most false)) false (c := '?') (by decide) (fun text_eq ↦ ?_)
    (fun noMark ↦ ?_)
  · cases text_eq
    rfl
  · unfold withGreed
    split
    · exact absurd rfl (noMark _)
    · rfl

theorem local_readCounts (verbose : Bool) : Local (readCounts verbose) := by
  intro text longer piece rest trails read
  unfold readCounts at read ⊢
  split at read
  · rename_i least inside count
    obtain ⟨longer', trails, found⟩ := local_readCount verbose (trails.skip verbose) count
    obtain ⟨longer', trails, ends⟩ := trails.tail
    simp only [found, ends]
    exact local_withGreed least (some least) (trails.skip verbose) read
  · rename_i least inside count
    obtain ⟨longer', trails, found⟩ := local_readCount verbose (trails.skip verbose) count
    obtain ⟨longer', trails, ends⟩ := trails.tail
    replace trails := trails.skip verbose
    simp only [found, ends]
    split at read
    · rename_i rest' inside_eq
      rw [inside_eq] at trails
      obtain ⟨longer', trails, ends⟩ := trails.tail
      simp only [ends]
      exact local_withGreed least none (trails.skip verbose) read
    · rename_i unbounded
      split at read
      · rename_i most rest' count'
        obtain ⟨longer'', trails', found⟩ := local_readCount verbose trails count'
        obtain ⟨longer'', trails', ends'⟩ := trails'.tail
        split at read
        · rename_i ordered
          obtain ⟨others, trails'', found'⟩ :=
            local_withGreed least (some most) (trails'.skip verbose) read
          refine ⟨others, trails'', fun enclosure ↦ ?_⟩
          split
          · rename_i same
            exact absurd same (trails.ne_cons (by decide) unbounded enclosure _)
          · simp only [found, ends', if_pos ordered]
            exact found' enclosure
        · cases read
      · cases read
  · cases read

/-- No piece is read in another way because a parenthesis stands behind the text. -/
theorem local_readPiece (verbose : Bool) (c : Char) : Local (readPiece verbose c) := by
  intro text longer piece rest trails read
  rw [readPiece.eq_def] at read
  split at read
  · exact local_readGroup verbose trails read
  · exact local_some Piece.closeGroup trails read
  · exact local_some Piece.bar trails read
  · obtain ⟨longer', trails, opening⟩ := trails_readOpening trails verbose
    rcases opening_eq : readOpening verbose text with ⟨opened, inside⟩
    rw [opening_eq] at read trails opening
    obtain ⟨⟨members, rest'⟩, bracket, found⟩ := Option.map_eq_some_iff.1 read
    cases found
    obtain ⟨longer'', trails, found⟩ := local_readBracket verbose [] opened trails bracket
    refine ⟨longer'', trails, fun enclosure ↦ ?_⟩
    simp only [readPiece, opening, found]
    rfl
  · exact local_withGreed 0 (some 1) trails read
  · exact local_withGreed 0 none trails read
  · exact local_withGreed 1 none trails read
  · exact local_readCounts verbose trails read
  · exact local_readEscape verbose trails read
  · exact local_some Piece.dot trails read
  · exact local_some (Piece.anchor .caret) trails read
  · exact local_some (Piece.anchor .dollar) trails read
  · obtain ⟨longer', trails, found⟩ := local_some (Piece.literal c false) trails read
    refine ⟨longer', trails, fun enclosure ↦ ?_⟩
    simp only [readPiece, found]

end RecordSearch.Regex
