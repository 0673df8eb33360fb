import Mathlib.Data.List.TakeDrop
import RecordSearch.Proofs.Literal

/-!
# What stands behind a text

The readers of regular expressions go by the text that is left, so what stands behind a text could
change how the text itself is read.  A closing parenthesis does not: a text that is read to its end
is read in the same way where a parenthesis follows, and the parenthesis is left.  Only a comment at
the end of the text takes it in, too.

Here this is shown of the readers of white space, numbers and escapes.
-/

namespace RecordSearch.Regex

open Unicode (isBlank)

/-- The ways of putting a text in parentheses: to be a group, and to match a whole text. -/
inductive Enclosure
  | group
  | whole
deriving Repr, DecidableEq

def Enclosure.before : Enclosure → List Char
  | group => ['(']
  | whole => ['\\', 'A', '(', '?', ':']

def Enclosure.after : Enclosure → List Char
  | group => []
  | whole => ['\\', 'z']

def Enclosure.behind (enclosure : Enclosure) : List Char := ')' :: enclosure.after

/-- What a reader leaves of the enclosed texts, where it leaves `rest` of the text itself: the
enclosure follows, unless the text ends in a comment that has taken it in. -/
inductive Trails : List Char → (Enclosure → List Char) → Prop
  | kept {rest : List Char} {longer : Enclosure → List Char}
    (h : ∀ enclosure, longer enclosure = rest ++ enclosure.behind) : Trails rest longer
  | lost {longer : Enclosure → List Char} (h : ∀ enclosure, longer enclosure = []) :
    Trails [] longer

/-- The reader finds the same in the enclosed texts as in the text itself, and leaves the same. -/
def Local {α : Type} (reader : List Char → Option (α × List Char)) : Prop :=
  ∀ ⦃text : List Char⦄ ⦃longer : Enclosure → List Char⦄ ⦃found : α⦄ ⦃rest : List Char⦄,
    Trails text longer → reader text = some (found, rest) →
      ∃ longer', Trails rest longer' ∧
        ∀ enclosure, reader (longer enclosure) = some (found, longer' enclosure)

section Trails

variable {c : Char} {text text' rest : List Char} {longer longer' : Enclosure → List Char}
  {property : Char → Bool}

theorem Trails.elim (h : Trails text longer) :
    (text = [] ∧ ∀ enclosure, longer enclosure = ')' :: enclosure.after) ∨
      (text = [] ∧ ∀ enclosure, longer enclosure = []) ∨
      ∃ c rest longer', text = c :: rest ∧ Trails rest longer' ∧
        ∀ enclosure, longer enclosure = c :: longer' enclosure := by
  cases h with
  | kept h =>
    cases text with
    | nil => exact .inl ⟨rfl, h⟩
    | cons c rest => exact .inr (.inr ⟨c, rest, _, rfl, .kept fun _ ↦ rfl, h⟩)
  | lost h => exact .inr (.inl ⟨rfl, h⟩)

theorem Trails.tail (h : Trails (c :: rest) longer) :
    ∃ longer', Trails rest longer' ∧ ∀ enclosure, longer enclosure = c :: longer' enclosure := by
  cases h with
  | kept h => exact ⟨_, .kept fun _ ↦ rfl, h⟩

/-- Apart from the parenthesis, the enclosed texts begin with no other character than the text. -/
theorem Trails.head?_eq_iff (h : Trails text longer) (other : c ≠ ')') (enclosure : Enclosure) :
    (longer enclosure).head? = some c ↔ text.head? = some c := by
  rcases h.elim with ⟨rfl, ends⟩ | ⟨rfl, ends⟩ | ⟨d, behind, _, rfl, -, ends⟩
  · rw [ends]
    exact ⟨fun same ↦ absurd (Option.some.inj same).symm other, fun none ↦ absurd none nofun⟩
  · rw [ends]
  · rw [ends]
    rfl

theorem Trails.ne_cons (h : Trails text longer) (other : c ≠ ')')
    (differs : ∀ rest, text ≠ c :: rest) (enclosure : Enclosure) (rest : List Char) :
    longer enclosure ≠ c :: rest := by
  intro same
  have starts : (longer enclosure).head? = some c := by
    rw [same]
    rfl
  obtain ⟨behind, text_eq⟩ := List.head?_eq_some_iff.1 ((h.head?_eq_iff other enclosure).1 starts)
  exact differs behind text_eq

theorem Trails.ne_cons_cons (h : Trails text longer) {d : Char} (other : c ≠ ')') (other' : d ≠ ')')
    (differs : ∀ rest, text ≠ c :: d :: rest) (enclosure : Enclosure) (rest : List Char) :
    longer enclosure ≠ c :: d :: rest := by
  by_cases starts : ∃ rest, text = c :: rest
  · obtain ⟨behind, rfl⟩ := starts
    obtain ⟨longer', trails, ends⟩ := h.tail
    rw [ends]
    rintro same
    refine trails.ne_cons other' (fun rest same' ↦ ?_) enclosure rest (List.cons.inj same).2
    exact differs rest (by rw [same'])
  · exact h.ne_cons other (not_exists.1 starts) enclosure (d :: rest)

theorem Trails.congr (h : Trails rest longer)
    (same : ∀ enclosure, longer' enclosure = longer enclosure) : Trails rest longer' := by
  rw [funext same]
  exact h

theorem Trails.length_lt (h : Trails text longer) (h' : Trails rest longer')
    (shorter : rest.length < text.length) (enclosure : Enclosure) :
    (longer' enclosure).length < (longer enclosure).length := by
  cases h with
  | lost => exact absurd shorter (Nat.not_lt_zero _)
  | kept h =>
    rw [h, List.length_append]
    cases h' with
    | lost h' =>
      rw [h', List.length_nil]
      omega
    | kept h' =>
      rw [h', List.length_append]
      omega

/-- A comment takes in all of an enclosure. -/
theorem dropComments_behind (enclosure : Enclosure) :
    dropComments true enclosure.behind = [] := by
  cases enclosure <;> decide

/-- The enclosure is lost where the text ends inside a comment, and kept elsewhere. -/
theorem trails_dropComments (inside : Bool) (text : List Char) :
    Trails (dropComments inside text) fun enclosure ↦
      dropComments inside (text ++ enclosure.behind) := by
  fun_induction dropComments inside text with
  | case1 inside =>
    cases inside with
    | true => exact .lost dropComments_behind
    | false => exact .kept fun _ ↦ rfl
  | case2 c rest ih => exact ih
  | case3 c rest blank ih =>
    refine ih.congr fun enclosure ↦ ?_
    rw [List.cons_append, dropComments, if_pos blank]
  | case4 rest visible ih => exact ih
  | case5 c rest visible noComment =>
    refine .kept fun enclosure ↦ ?_
    rw [List.cons_append, dropComments, if_neg visible, if_neg noComment]

theorem Trails.skip (h : Trails text longer) (verbose : Bool) :
    Trails (skip verbose text) fun enclosure ↦ skip verbose (longer enclosure) := by
  cases verbose with
  | false => exact h
  | true =>
    cases h with
    | kept h =>
      refine (trails_dropComments false text).congr fun enclosure ↦ ?_
      rw [h]
      rfl
    | lost h =>
      refine .lost fun enclosure ↦ ?_
      rw [h]
      rfl

/-- The same characters are dropped from both texts, if the parenthesis is not one of them. -/
theorem Trails.dropWhile (h : Trails text longer) (stops : property ')' = false) :
    Trails (text.dropWhile property) fun enclosure ↦ (longer enclosure).dropWhile property := by
  cases h with
  | lost h => exact .lost fun enclosure ↦ by rw [h, List.dropWhile_nil]
  | kept h =>
    refine .kept fun enclosure ↦ ?_
    rw [h, List.dropWhile_append]
    split
    · rename_i all
      rw [List.isEmpty_iff.1 all, Enclosure.behind, List.dropWhile_cons, stops]
      rfl
    · rfl

/-- A run that ends inside the text ends there in the enclosed texts, too. -/
theorem Trails.span_cons (h : Trails text longer) (ends : text.span property = (text', c :: rest)) :
    ∃ longer', Trails rest longer' ∧
      ∀ enclosure, (longer enclosure).span property = (text', c :: longer' enclosure) := by
  rw [List.span_eq_takeWhile_dropWhile, Prod.mk.injEq] at ends
  obtain ⟨run, behind⟩ := ends
  cases h with
  | lost => exact absurd behind (List.cons_ne_nil c rest).symm
  | kept h =>
    refine ⟨_, .kept fun _ ↦ rfl, fun enclosure ↦ ?_⟩
    have length_ne : text'.length ≠ text.length := by
      rw [← List.takeWhile_append_dropWhile (p := property) (l := text), run, behind,
        List.length_append, List.length_cons]
      omega
    rw [List.span_eq_takeWhile_dropWhile, h, List.takeWhile_append, List.dropWhile_append, behind,
      run, if_neg length_ne]
    rfl

/-- So does a run that the parenthesis does not continue. -/
theorem Trails.collect (h : Trails text longer) (verbose : Bool) (property : Char → Bool)
    (stops : property ')' = false ∨ (collect verbose property text).2 ≠ []) :
    ∃ longer', Trails (collect verbose property text).2 longer' ∧
      ∀ enclosure, collect verbose property (longer enclosure) =
        ((collect verbose property text).1, longer' enclosure) := by
  fun_induction Regex.collect verbose property text generalizing longer with
  | case1 =>
    rcases h.elim with ⟨-, ends⟩ | ⟨-, ends⟩ | ⟨_, _, _, same, _⟩
    · have stops : property ')' = false := by simpa using stops
      refine ⟨_, .kept fun _ ↦ rfl, fun enclosure ↦ ?_⟩
      rw [ends, Regex.collect, if_neg (Bool.eq_false_iff.1 stops)]
      rfl
    · refine ⟨_, .lost fun _ ↦ rfl, fun enclosure ↦ ?_⟩
      rw [ends, Regex.collect]
    · exact absurd same (List.cons_ne_nil _ _).symm
  | case2 c rest holds run rest' run_eq ih =>
    obtain ⟨longer', trails, ends⟩ := h.tail
    rw [run_eq] at ih
    obtain ⟨longer'', trails', found⟩ := ih (trails.skip verbose) stops
    refine ⟨longer'', trails', fun enclosure ↦ ?_⟩
    rw [ends, Regex.collect, if_pos holds, found]
  | case3 c rest fails =>
    obtain ⟨longer', trails, ends⟩ := h.tail
    refine ⟨_, h, fun enclosure ↦ ?_⟩
    rw [ends, Regex.collect, if_neg fails]

theorem Trails.collect_cons (h : Trails text longer) {verbose : Bool}
    (ends : Regex.collect verbose property text = (text', c :: rest)) :
    ∃ longer', Trails rest longer' ∧ ∀ enclosure,
      Regex.collect verbose property (longer enclosure) = (text', c :: longer' enclosure) := by
  have nonempty : (Regex.collect verbose property text).2 ≠ [] := by
    rw [ends]
    exact List.cons_ne_nil c rest
  obtain ⟨others, trails, found⟩ := h.collect verbose property (.inr nonempty)
  rw [ends] at trails found
  obtain ⟨longer', trails, ends'⟩ := trails.tail
  exact ⟨longer', trails, fun enclosure ↦ by rw [found, ends']⟩

end Trails

theorem local_some {α : Type} (found : α) : Local fun text ↦ some (found, text) := by
  intro text longer found' rest trails read
  cases read
  exact ⟨longer, trails, fun _ ↦ rfl⟩

/-- A reader that goes by the first significant character. -/
theorem Local.of_head {α : Type} {reader inside otherwise : List Char → Option (α × List Char)}
    {c : Char} (h : Local inside) (h' : Local otherwise) (verbose : Bool) (other : c ≠ ')')
    (at_head : ∀ {text rest}, skip verbose text = c :: rest → reader text = inside rest)
    (elsewhere : ∀ {text}, (∀ rest, skip verbose text ≠ c :: rest) →
      reader text = otherwise (skip verbose text)) : Local reader := by
  intro text longer found rest trails read
  replace trails := trails.skip verbose
  by_cases starts : ∃ rest, skip verbose text = c :: rest
  · obtain ⟨behind, text_eq⟩ := starts
    rw [at_head text_eq] at read
    rw [text_eq] at trails
    obtain ⟨others, trails, ends⟩ := trails.tail
    obtain ⟨longer', trails, found⟩ := h trails read
    exact ⟨longer', trails, fun enclosure ↦ by rw [at_head (ends enclosure), found]⟩
  · rw [not_exists] at starts
    rw [elsewhere starts] at read
    obtain ⟨longer', trails', found⟩ := h' trails read
    refine ⟨longer', trails', fun enclosure ↦ ?_⟩
    rw [elsewhere (trails.ne_cons other starts enclosure), found]

theorem isBlank_closing : isBlank ')' = false := by decide

theorem local_readCount (verbose : Bool) : Local (readCount verbose) := by
  intro text longer count rest trails read
  obtain ⟨longer', trails', found⟩ :=
    (trails.dropWhile isBlank_closing).collect verbose Char.isDigit (.inl (by decide))
  unfold readCount at read ⊢
  dsimp only at read found ⊢
  split at read
  · cases read
  · rename_i valid
    cases read
    refine ⟨_, trails'.dropWhile isBlank_closing, fun enclosure ↦ ?_⟩
    rw [found, if_neg valid]

theorem local_readHexDigits (verbose : Bool) (count : Nat) :
    Local (readHexDigits verbose count) := by
  induction count with
  | zero => exact local_some []
  | succ count ih =>
    intro text longer digits rest trails read
    cases text with
    | nil => cases read
    | cons c behind =>
      rw [readHexDigits] at read
      split at read
      · rename_i digit
        obtain ⟨⟨digits, rest'⟩, others, found⟩ := Option.map_eq_some_iff.1 read
        cases found
        obtain ⟨longer', trails, ends⟩ := trails.tail
        obtain ⟨longer'', trails, found⟩ := ih (trails.skip verbose) others
        refine ⟨longer'', trails, fun enclosure ↦ ?_⟩
        rw [ends, readHexDigits, if_pos digit, found]
        rfl
      · cases read

/-- A character by a code in braces, behind the opening one. -/
def readBracedCode (verbose : Bool) : PieceReader := fun text ↦
  match collect verbose isHexDigit (skip verbose text) with
  | (code, '\x7D' :: rest) =>
    if code.isEmpty then none
    else (charOfCode? (numberOf 16 code)).map fun c ↦ (.literal c false, rest)
  | _ => none

/-- A character by a code of so many digits. -/
def readPlainCode (verbose : Bool) (digits : Nat) : PieceReader := fun text ↦
  (readHexDigits verbose digits text).bind fun read ↦
    (charOfCode? (numberOf 16 read.1)).map fun c ↦ (.literal c (digits == 2), read.2)

theorem local_readBracedCode (verbose : Bool) : Local (readBracedCode verbose) := by
  intro text longer piece rest trails read
  unfold readBracedCode at read ⊢
  split at read
  · rename_i code rest' collected
    obtain ⟨longer', trails, found⟩ := (trails.skip verbose).collect_cons collected
    split at read
    · cases read
    · rename_i nonempty
      obtain ⟨c, valid, found'⟩ := Option.map_eq_some_iff.1 read
      cases found'
      refine ⟨longer', trails, fun enclosure ↦ ?_⟩
      simp only [found, if_neg nonempty, valid]
      rfl
  · cases read

theorem local_readPlainCode (verbose : Bool) (digits : Nat) :
    Local (readPlainCode verbose digits) := by
  intro text longer piece rest trails read
  unfold readPlainCode at read ⊢
  obtain ⟨⟨code, rest'⟩, readDigits, read⟩ := Option.bind_eq_some_iff.1 read
  obtain ⟨longer', trails, found⟩ := local_readHexDigits verbose digits trails readDigits
  obtain ⟨c, valid, found'⟩ := Option.map_eq_some_iff.1 read
  cases found'
  refine ⟨longer', trails, fun enclosure ↦ ?_⟩
  simp only [found, Option.bind_some, valid]
  rfl

/-- The reader of codes finds the same in the enclosed texts. -/
theorem local_readCode (verbose : Bool) (digits : Nat) : Local (readCode verbose digits) := by
  refine (local_readBracedCode verbose).of_head (local_readPlainCode verbose digits) verbose
    (c := '\x7B') (by decide) (fun text_eq ↦ ?_) (fun noBrace ↦ ?_)
  · rw [readCode, text_eq]
    rfl
  · rw [readCode]
    split
    · rename_i brace
      exact absurd brace (noBrace _)
    · unfold readPlainCode
      simp only [Option.map_eq_bind]
      rfl

theorem local_readBoundary (verbose : Bool) : Local (readBoundary verbose) := by
  intro text longer anchor rest trails read
  unfold readBoundary at read ⊢
  split at read
  · rename_i inside
    obtain ⟨longer', inside_trails, ends⟩ := trails.tail
    replace inside_trails := inside_trails.skip verbose
    split at read
    · cases read
    · rename_i c behind inside_eq
      rw [inside_eq] at inside_trails
      obtain ⟨longer'', behind_trails, ends'⟩ := inside_trails.tail
      split at read
      · rename_i isName
        split at read
        · rename_i name rest' collected
          obtain ⟨others, rest_trails, found⟩ := inside_trails.collect_cons collected
          obtain ⟨anchor', valid, found'⟩ := Option.map_eq_some_iff.1 read
          cases found'
          refine ⟨others, rest_trails, fun enclosure ↦ ?_⟩
          have found := found enclosure
          rw [ends'] at found
          simp only [ends, ends', if_pos isName, found, valid]
          rfl
        · cases read
      · rename_i noName
        cases read
        refine ⟨longer, trails, fun enclosure ↦ ?_⟩
        simp only [ends, ends', if_neg noName]
  · rename_i noBrace
    cases read
    refine ⟨longer, trails, fun enclosure ↦ ?_⟩
    split
    · rename_i brace
      exact absurd brace (trails.ne_cons (by decide) noBrace enclosure _)
    · rfl

theorem local_readProperty (verbose negated : Bool) : Local (readProperty verbose negated) := by
  intro text longer piece rest trails read
  replace trails := trails.skip verbose
  unfold readProperty at read ⊢
  split at read
  · cases read
  · rename_i inside text_eq
    rw [text_eq] at trails
    obtain ⟨longer', trails, ends⟩ := trails.tail
    split at read
    · rename_i name rest' collected
      cases read
      obtain ⟨others, trails, found⟩ := (trails.skip verbose).collect_cons collected
      refine ⟨others, trails, fun enclosure ↦ ?_⟩
      simp only [ends, found]
    · cases read
  · rename_i c behind noBrace text_eq
    rw [text_eq] at trails
    obtain ⟨longer', trails, ends⟩ := trails.tail
    split at read
    · cases read
    · rename_i noBackslash
      cases read
      refine ⟨longer', trails, fun enclosure ↦ ?_⟩
      rw [ends]
      split
      · rename_i same
        cases same
      · rename_i same
        cases same
        exact (noBrace rfl).elim
      · rename_i same
        cases same
        rw [if_neg noBackslash]

/-- The reader of escapes finds the same in the enclosed texts. -/
theorem local_readEscape (verbose : Bool) : Local (readEscape verbose) := by
  intro text longer piece rest trails read
  cases text with
  | nil => cases read
  | cons c text =>
    obtain ⟨longer', trails', ends⟩ := trails.tail
    rw [readEscape.eq_def] at read
    simp only [ends]
    split at read
    all_goals
      rename_i same
      cases same
    · exact local_readCode verbose 2 trails' read
    · exact local_readCode verbose 4 trails' read
    · exact local_readCode verbose 8 trails' read
    · exact local_readProperty verbose false trails' read
    · exact local_readProperty verbose true trails' read
    · obtain ⟨⟨anchor, rest'⟩, boundary, found⟩ := Option.map_eq_some_iff.1 read
      cases found
      obtain ⟨others, trails, found⟩ := local_readBoundary verbose trails' boundary
      refine ⟨others, trails, fun enclosure ↦ ?_⟩
      rw [readEscape, found]
      rfl
    -- No other escape reads on behind its letter.
    · split at read
      · rename_i escapable
        cases read
        refine ⟨longer', trails', fun enclosure ↦ ?_⟩
        simp only [readEscape, if_pos escapable]
      · rename_i notEscapable
        split at read
        all_goals cases read
        all_goals exact ⟨longer', trails', fun enclosure ↦ by simp [readEscape, *]⟩

end RecordSearch.Regex
