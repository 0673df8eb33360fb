import RecordSearch.Proofs.TrailingPieces
import RecordSearch.Query.Basic

/-!
# Regular expressions in parentheses

A regular expression is put in parentheses to be a group of a highlighting pattern, and to match a
whole text.  Both succeed or both fail: the parentheses that are put around it do what they should,
unless a comment at its end hides the closing one.  A text that is none can become one: its own
parentheses may be paired with those around it.
-/

namespace RecordSearch

namespace Regex

/-- The same place of a text that stands inside further groups. -/
def Nesting.within (nesting : Nesting) (outer : List Bool) : Nesting :=
  ⟨nesting.verbose, nesting.outer ++ outer⟩

@[simp]
theorem Nesting.within_verbose (nesting : Nesting) (outer : List Bool) :
    (nesting.within outer).verbose = nesting.verbose := rfl

/-- A piece changes the nesting alike when further groups are open around it. -/
theorem Nesting.after?_within {nesting next : Nesting} {piece : Piece}
    (h : nesting.after? piece = some next) (outer : List Bool) :
    (nesting.within outer).after? piece = some (next.within outer) := by
  cases piece with
  | closeGroup =>
    obtain ⟨verbose, groups⟩ := nesting
    cases groups with
    | nil => cases h
    | cons group groups =>
      cases h
      rfl
  | _ =>
    cases h
    rfl

def Enclosure.opening : Enclosure → List Piece
  | group => [.openGroup none []]
  | whole => [.anchor .textStart, .openGroup none []]

def Enclosure.closing : Enclosure → List Piece
  | group => [.closeGroup]
  | whole => [.closeGroup, .anchor .textEnd]

theorem readPieces_nil (nesting : Nesting) : readPieces nesting [] = some [] := by
  obtain ⟨verbose, outer⟩ := nesting
  rw [readPieces]
  cases verbose <;> rfl

theorem readPieces_after (nesting : Nesting) (enclosure : Enclosure) :
    (readPieces nesting enclosure.after).map (.closeGroup :: ·) = some enclosure.closing := by
  cases enclosure with
  | group =>
    rw [Enclosure.after, readPieces_nil]
    rfl
  | whole =>
    obtain ⟨verbose, outer⟩ := nesting
    have visible : skip verbose ['\\', 'z'] = ['\\', 'z'] := by cases verbose <;> decide
    have read : readPiece verbose '\\' ['z'] = some (.anchor .textEnd, []) := by
      cases verbose <;> rfl
    rw [Enclosure.after, readPieces]
    simp only [visible, read, Nesting.after?, readPieces_nil]
    rfl

theorem readPieces_behind {nesting : Nesting} {text : List Char} {enclosure : Enclosure}
    (text_eq : skip nesting.verbose text = ')' :: enclosure.after) :
    readPieces (nesting.within [false]) text = some enclosure.closing := by
  obtain ⟨next, after⟩ : ∃ next, (nesting.within [false]).after? .closeGroup = some next := by
    obtain ⟨verbose, groups⟩ := nesting
    cases groups with
    | nil => exact ⟨_, rfl⟩
    | cons => exact ⟨_, rfl⟩
  have shorter : enclosure.after.length < text.length := by
    have := skip_length_le nesting.verbose text
    rw [text_eq, List.length_cons] at this
    omega
  rw [readPieces]
  simp only [Nesting.within_verbose, text_eq, readPiece, after, if_pos shorter]
  exact readPieces_after next enclosure

/-- A text that can be read is read in the same way in all enclosures; if it does not end in a
comment, its enclosure is read, too. -/
theorem trails_readPieces {nesting : Nesting} {text : List Char} {longer : Enclosure → List Char}
    {pieces : List Piece} (h : Trails text longer) (read : readPieces nesting text = some pieces) :
    ∃ tail : Enclosure → List Piece, (tail = Enclosure.closing ∨ tail = fun _ ↦ []) ∧
      ∀ enclosure, readPieces (nesting.within [false]) (longer enclosure) =
        some (pieces ++ tail enclosure) := by
  fun_induction readPieces nesting text generalizing longer pieces with
  | case1 nesting text text_eq =>
    -- Here the text ends: what follows in the enclosed texts is the enclosure or nothing.
    cases read
    have trails := h.skip nesting.verbose
    rw [text_eq] at trails
    rcases trails.elim with ⟨-, ends⟩ | ⟨-, ends⟩ | ⟨c, rest, longer', same, -⟩
    · exact ⟨_, .inl rfl, fun enclosure ↦ readPieces_behind (ends enclosure)⟩
    · refine ⟨_, .inr rfl, fun enclosure ↦ ?_⟩
      rw [readPieces, Nesting.within_verbose, ends]
      rfl
    · cases same
  | case2 => cases read
  | case3 => cases read
  | case4 nesting text first rest text_eq piece behind readFirst next after shorter ih =>
    obtain ⟨pieces', readRest, found⟩ := Option.map_eq_some_iff.1 read
    cases found
    have trails := h.skip nesting.verbose
    rw [text_eq] at trails
    obtain ⟨longer', trails, ends⟩ := trails.tail
    obtain ⟨longer'', trails, readFirst'⟩ := local_readPiece nesting.verbose first trails readFirst
    obtain ⟨tail, kind, found⟩ := ih trails readRest
    refine ⟨tail, kind, fun enclosure ↦ ?_⟩
    rw [readPieces, Nesting.within_verbose, ends]
    simp only [readFirst', Nesting.after?_within after]
    rw [if_pos (h.length_lt trails shorter enclosure), found]
    rfl
  | case5 => cases read

def Enclosure.enclose (enclosure : Enclosure) (text : List Char) : List Char :=
  enclosure.before ++ (text ++ enclosure.behind)

theorem readsAs_before (enclosure : Enclosure) {text : List Char} (noMark : text.head? ≠ some '?') :
    ReadsAs ⟨false, []⟩ enclosure.before enclosure.opening ⟨false, [false]⟩
      (text ++ enclosure.behind) := by
  cases enclosure with
  | group =>
    refine readsAs_piece (readGroup_plain ?_) rfl
    cases text with
    | nil => decide
    | cons c rest => exact noMark
  | whole =>
    have start : ReadsAs ⟨false, []⟩ ['\\', 'A'] [.anchor .textStart] ⟨false, []⟩
        (['(', '?', ':'] ++ (text ++ Enclosure.whole.behind)) :=
      readsAs_piece rfl rfl
    exact start.append (readsAs_piece rfl rfl)

/-- A text that can be read is read in an enclosure as it is read alone. -/
theorem pieces?_enclose {text : List Char} {pieces : List Piece} (noMark : text.head? ≠ some '?')
    (read : pieces? text = some pieces) :
    ∃ tail : Enclosure → List Piece, (tail = Enclosure.closing ∨ tail = fun _ ↦ []) ∧
      ∀ enclosure, pieces? (enclosure.enclose text) =
        some (enclosure.opening ++ (pieces ++ tail enclosure)) := by
  obtain ⟨tail, kind, found⟩ := trails_readPieces (.kept fun _ ↦ rfl) read
  refine ⟨tail, kind, fun enclosure ↦ ?_⟩
  have opened := readsAs_before enclosure noMark
  unfold ReadsAs at opened
  have inside : readPieces ⟨false, [false]⟩ (text ++ enclosure.behind) =
    some (pieces ++ tail enclosure) := found enclosure
  rw [pieces?, Enclosure.enclose, opened, inside]
  rfl

/-! ## Putting the pieces together -/

/-- The same place of a regular expression that stands inside further groups. -/
def Assembly.within (assembly : Assembly) (outer : List OpenGroup) : Assembly :=
  ⟨assembly.inner, assembly.outer ++ outer⟩

/-- A piece is assembled alike when further groups are open around it. -/
theorem Assembly.step_within {assembly next : Assembly} {piece : Piece}
    (h : assembly.step piece = some next) (outer : List OpenGroup) :
    (assembly.within outer).step piece = some (next.within outer) := by
  cases piece with
  | closeGroup =>
    obtain ⟨inner, groups⟩ := assembly
    cases groups with
    | nil => cases h
    | cons group groups =>
      cases h
      rfl
  | literal | dot | set | repetition =>
    obtain ⟨item, found, rfl⟩ := Option.map_eq_some_iff.1 h
    exact Option.map_eq_some_iff.2 ⟨item, found, rfl⟩
  | _ =>
    cases h
    rfl

theorem Assembly.foldlM_within {assembly last : Assembly} {pieces : List Piece}
    (h : pieces.foldlM Assembly.step assembly = some last) (outer : List OpenGroup) :
    pieces.foldlM Assembly.step (assembly.within outer) = some (last.within outer) := by
  induction pieces generalizing assembly with
  | nil =>
    cases h
    rfl
  | cons piece pieces ih =>
    rw [List.foldlM_cons, Option.bind_eq_bind, Option.bind_eq_some_iff] at h
    obtain ⟨next, step, run⟩ := h
    rw [List.foldlM_cons, step_within step outer]
    exact ih run

def Enclosure.around (regex : Regex) : Enclosure → Regex
  | group => .cat .empty regex
  | whole => .cat (.cat (.cat .empty (.look .textStart)) regex) (.look .textEnd)

section Assembling

variable {flags : Flags} {pieces : List Piece} {regex : Regex}

/-- The group around the parentheses of an enclosure. -/
def Enclosure.start (flags : Flags) : Enclosure → OpenGroup
  | group => .start flags
  | whole => (OpenGroup.start flags).add (.look .textStart)

theorem run_opening (flags : Flags) (enclosure : Enclosure) :
    enclosure.opening.foldlM Assembly.step ⟨.start flags, []⟩ =
      some ⟨.start flags, [enclosure.start flags]⟩ := by
  cases enclosure <;> rfl

theorem ofPieces?_eq_some (h : ofPieces? flags pieces = some regex) :
    ∃ inner : OpenGroup, pieces.foldlM Assembly.step ⟨.start flags, []⟩ = some ⟨inner, []⟩ ∧
      (pieces.filterMap Piece.groupName?).Nodup ∧ inner.value = regex := by
  unfold ofPieces? at h
  rw [Option.bind_eq_bind, Option.bind_eq_some_iff] at h
  obtain ⟨⟨inner, outer⟩, run, finished⟩ := h
  split at finished
  · rename_i distinct
    unfold Assembly.finish? at finished
    split at finished
    · rename_i closed
      cases closed
      cases finished
      exact ⟨inner, run, distinct, rfl⟩
    · cases finished
  · cases finished

/-- Between the pieces of an enclosure the others are assembled as they are alone. -/
theorem run_enclosed {inner : OpenGroup}
    (run : pieces.foldlM Assembly.step ⟨.start flags, []⟩ = some ⟨inner, []⟩)
    (enclosure : Enclosure) (tail : List Piece) :
    (enclosure.opening ++ (pieces ++ tail)).foldlM Assembly.step ⟨.start flags, []⟩ =
      tail.foldlM Assembly.step ⟨inner, [enclosure.start flags]⟩ := by
  have run' : pieces.foldlM Assembly.step ⟨.start flags, [enclosure.start flags]⟩ =
      some ⟨inner, [enclosure.start flags]⟩ :=
    Assembly.foldlM_within run [enclosure.start flags]
  rw [List.foldlM_append, run_opening, Option.bind_eq_bind, Option.bind_some, List.foldlM_append,
    run', Option.bind_eq_bind, Option.bind_some]

theorem groupNames_enclosed (enclosure : Enclosure) (pieces : List Piece) :
    (enclosure.opening ++ (pieces ++ enclosure.closing)).filterMap Piece.groupName? =
      pieces.filterMap Piece.groupName? := by
  have opening : enclosure.opening.filterMap Piece.groupName? = [] := by cases enclosure <;> rfl
  have closing : enclosure.closing.filterMap Piece.groupName? = [] := by cases enclosure <;> rfl
  rw [List.filterMap_append, List.filterMap_append, opening, closing, List.append_nil,
    List.nil_append]

/-- In an enclosure the pieces make the expression they make alone, with the enclosure around it. -/
theorem ofPieces?_enclosed (h : ofPieces? flags pieces = some regex) (enclosure : Enclosure) :
    ofPieces? flags (enclosure.opening ++ (pieces ++ enclosure.closing)) =
      some (enclosure.around regex) := by
  obtain ⟨inner, run, distinct, rfl⟩ := ofPieces?_eq_some h
  rw [ofPieces?, run_enclosed run, groupNames_enclosed]
  simp only [if_pos distinct]
  cases enclosure <;> rfl

/-- Without the pieces that close it an enclosure stays open. -/
theorem ofPieces?_unclosed (h : ofPieces? flags pieces = some regex) (enclosure : Enclosure) :
    ofPieces? flags (enclosure.opening ++ (pieces ++ [])) = none := by
  obtain ⟨inner, run, -⟩ := ofPieces?_eq_some h
  rw [ofPieces?, run_enclosed run, List.foldlM_nil]
  exact ite_self none

/-- Nothing can be repeated at the start of a regular expression. -/
theorem ofPieces?_repetition (flags : Flags) (least : Nat) (most : Option Nat) (reluctant : Bool)
    (pieces : List Piece) : ofPieces? flags (.repetition least most reluctant :: pieces) = none :=
  rfl

/-- No regular expression begins with a question mark. -/
theorem head?_ne_of_compile? {text : List Char} {caseInsensitive : Bool}
    (h : compile? text caseInsensitive = some regex) : text.head? ≠ some '?' := by
  intro starts
  cases text with
  | nil => cases starts
  | cons c rest =>
    cases starts
    obtain ⟨pieces, read, assembled⟩ := Option.bind_eq_some_iff.1 h
    unfold pieces? at read
    obtain ⟨reluctant, behind, first⟩ : ∃ reluctant behind,
        readPiece false '?' rest = some (.repetition 0 (some 1) reluctant, behind) := by
      change ∃ reluctant behind, some (withGreed 0 (some 1) rest) = some _
      unfold withGreed
      split
      · exact ⟨true, _, rfl⟩
      · exact ⟨false, _, rfl⟩
    rw [readPieces] at read
    simp only [skip, Bool.false_eq_true, if_false, first, Nesting.after?] at read
    split at read
    · obtain ⟨pieces', -, rfl⟩ := Option.map_eq_some_iff.1 read
      rw [ofPieces?_repetition] at assembled
      cases assembled
    · cases read

/-- What is a regular expression alone is one in both enclosures or in none. -/
theorem compile?_enclose {text : List Char} {caseInsensitive : Bool}
    (h : compile? text caseInsensitive = some regex) :
    (∀ enclosure : Enclosure,
        compile? (enclosure.enclose text) caseInsensitive = some (enclosure.around regex)) ∨
      ∀ enclosure : Enclosure, compile? (enclosure.enclose text) caseInsensitive = none := by
  have noMark := head?_ne_of_compile? h
  unfold compile? at h ⊢
  obtain ⟨pieces, read, assembled⟩ := Option.bind_eq_some_iff.1 h
  obtain ⟨tail, rfl | rfl, found⟩ := pieces?_enclose noMark read
  · refine .inl fun enclosure ↦ ?_
    rw [found]
    exact ofPieces?_enclosed assembled enclosure
  · refine .inr fun enclosure ↦ ?_
    rw [found]
    exact ofPieces?_unclosed assembled enclosure

end Assembling

end Regex

namespace Needle

variable {text : String} {caseSensitive : Bool}

theorem toList_wholeSource (text : String) :
    (wholeSource text).toList = Regex.Enclosure.whole.enclose text.toList := by
  rw [wholeSource, String.toList_append, String.toList_append, List.append_assoc]
  rfl

/-- A regular expression is searched for if it is one alone and where it is to match whole texts. -/
theorem isSome_ofValue? : (ofValue? text ⟨caseSensitive, true⟩).isSome ↔
    (Regex.compile? text.toList (!caseSensitive)).isSome ∧
      (Regex.compile? (Regex.Enclosure.whole.enclose text.toList) (!caseSensitive)).isSome := by
  unfold ofValue? Pattern.compile?
  rw [if_pos rfl, toList_wholeSource]
  cases Regex.compile? text.toList (!caseSensitive) with
  | none => simp
  | some =>
    cases Regex.compile? (Regex.Enclosure.whole.enclose text.toList) (!caseSensitive) with
    | none => simp
    | some => simp

end Needle

namespace Query

open Unicode (isBlank)

theorem pattern?_regular {text : String} (notBlank : text.toList.all isBlank = false)
    (caseSensitive : Bool) (delimiter : Char) (dialect : Highlight.Dialect) :
    ∃ pattern, pattern? ⟨text, ⟨caseSensitive, true⟩, delimiter⟩ dialect = some pattern ∧
      pattern.native =
        Regex.compile? (Regex.Enclosure.group.enclose text.toList) (!caseSensitive) := by
  have words_eq : words ⟨text, ⟨caseSensitive, true⟩, delimiter⟩ = [text] := by
    unfold words Highlight.wordsOf
    rw [if_pos rfl, notBlank]
    rfl
  have written :
      Highlight.writeGroups [text.toList] = Regex.Enclosure.group.enclose text.toList := by
    unfold Highlight.writeGroups
    rw [List.map_singleton, Regex.intercalate_cons, List.flatMap_nil, List.append_nil]
    rfl
  unfold pattern?
  rw [words_eq]
  exact ⟨_, rfl, congrArg (Regex.compile? · (!caseSensitive)) written⟩

/-- A text that is a regular expression alone can be highlighted if and only if it is searched for;
what is searched for is such a text, and a pattern that is not usable marks nothing. -/
theorem prepares_iff_isUsable {text : String} (notBlank : text.toList.all isBlank = false)
    (caseSensitive : Bool) (delimiter : Char) (dialect : Highlight.Dialect) :
    ∃ pattern, pattern? ⟨text, ⟨caseSensitive, true⟩, delimiter⟩ dialect = some pattern ∧
      ((Needle.ofValue? text ⟨caseSensitive, true⟩).isSome ↔
        pattern.isUsable ∧ (Pattern.compile? text (!caseSensitive)).isSome) ∧
      (pattern.isUsable = false →
        ∀ value, pattern.isMatch value = false ∧ pattern.ranges value = []) := by
  obtain ⟨pattern, pattern_eq, native_eq⟩ :=
    pattern?_regular notBlank caseSensitive delimiter dialect
  refine ⟨pattern, pattern_eq, ?_, fun unusable value ↦ ?_⟩
  · have alone : (Pattern.compile? text (!caseSensitive)).isSome =
        (Regex.compile? text.toList (!caseSensitive)).isSome := Option.isSome_map
    rw [Needle.isSome_ofValue?, Highlight.Alternation.isUsable, native_eq, alone, and_comm]
    refine and_congr_left fun compiles ↦ ?_
    obtain ⟨regex, compiled⟩ := Option.isSome_iff_exists.1 compiles
    obtain both | neither := Regex.compile?_enclose compiled
    · rw [both, both]
      rfl
    · rw [neither, neither]
  · have native_none : pattern.native = none :=
      Option.isNone_iff_eq_none.1 (Option.isSome_eq_false_iff.1 unusable)
    unfold Highlight.Alternation.isMatch Highlight.Alternation.ranges
    rw [native_none]
    exact ⟨rfl, rfl⟩

/-- A comment at the end hides the closing parenthesis: the text is not searched for, and nothing is
marked. -/
theorem prepares_iff_isUsable_comment :
    "(?x)a # c".toList.all isBlank = false ∧ (Pattern.compile? "(?x)a # c" true).isSome ∧
      Needle.ofValue? "(?x)a # c" ⟨false, true⟩ = none ∧
      ∃ pattern, pattern? ⟨"(?x)a # c", ⟨false, true⟩, ','⟩ .blockQuotes = some pattern ∧
        pattern.isUsable = false ∧ ∀ value, pattern.ranges value = [] := by
  have notBlank : "(?x)a # c".toList.all isBlank = false := by decide +kernel
  have alone : (Pattern.compile? "(?x)a # c" true).isSome := by decide +kernel
  have fails : (Needle.ofValue? "(?x)a # c" ⟨false, true⟩).isSome = false := by decide +kernel
  obtain ⟨pattern, pattern_eq, prepares, unusable⟩ :=
    prepares_iff_isUsable notBlank false ',' .blockQuotes
  have usable : pattern.isUsable = false := by
    rw [fails] at prepares
    exact Bool.eq_false_iff.2 fun usable ↦ absurd (prepares.2 ⟨usable, alone⟩) Bool.false_ne_true
  exact ⟨notBlank, alone, Option.isNone_iff_eq_none.1 (Option.isSome_eq_false_iff.1 fails), pattern,
    pattern_eq, usable, fun value ↦ (unusable usable value).2⟩

/-- Not every text whose pattern is usable is searched for: the parentheses of `a)(b` become those
of two groups. -/
theorem not_prepares_iff_isUsable : ¬ ∀ (text : String) (caseSensitive : Bool) (delimiter : Char)
    (dialect : Highlight.Dialect), text.toList.all isBlank = false →
      ∃ pattern, pattern? ⟨text, ⟨caseSensitive, true⟩, delimiter⟩ dialect = some pattern ∧
        (pattern.isUsable ↔ (Needle.ofValue? text ⟨caseSensitive, true⟩).isSome) := by
  intro agree
  obtain ⟨pattern, pattern_eq, accepts⟩ := agree "a)(b" true ',' .blockQuotes (by decide +kernel)
  have usable : (pattern? ⟨"a)(b", ⟨true, true⟩, ','⟩ .blockQuotes).any (·.isUsable) := by
    decide +kernel
  have fails : (Needle.ofValue? "a)(b" ⟨true, true⟩).isSome = false := by decide +kernel
  rw [pattern_eq] at usable
  rw [accepts.1 usable] at fails
  cases fails

end Query

end RecordSearch
