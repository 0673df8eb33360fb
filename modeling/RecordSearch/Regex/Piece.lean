import RecordSearch.Regex.Basic

/-!
# Pieces

A regular expression is written as a sequence of pieces: literals, sets, anchors, repetitions, bars
and the two ends of groups.  Pieces are what can be told from the text alone; how they nest and what
they mean under the flags is settled afterwards.
-/

namespace RecordSearch.Regex

/-- A unit of a written regular expression. -/
inductive Piece
  /-- A character; `asByte` if it was written by a code of two hexadecimal digits. -/
  | literal (c : Char) (asByte : Bool)
  | dot
  | set (members : CharSet)
  | anchor (kind : Anchor)
  /-- Repeats what stands before it. -/
  | repetition (least : Nat) (most : Option Nat) (reluctant : Bool)
  | bar
  /-- Opens a group that can have a name and change flags. -/
  | openGroup (name : Option (List Char)) (change : FlagChange)
  | closeGroup
  /-- Changes flags up to the end of the group. -/
  | setFlags (change : FlagChange)

abbrev PieceReader := List Char → Option (Piece × List Char)

end RecordSearch.Regex
