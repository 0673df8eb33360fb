import RecordSearch.Regex.Bracket

/-!
# Reading pieces

A text is cut into pieces from left to right.  Whether white space counts depends on the groups that
are open, so the reader keeps track of them; everything else about a piece can be told from the text
at its place.
-/

namespace RecordSearch.Regex

def isGroupNameCharacter (c : Char) : Bool :=
  Unicode.isAlphanumeric c || c == '_' || c == '.' || c == '[' || c == ']'

def isGroupName (name : List Char) : Bool :=
  match name with
  | [] => false
  | first :: rest => (Unicode.isAlphabetic first || first == '_') && rest.all isGroupNameCharacter

def readGroupName (text : List Char) : Option (Piece × List Char) :=
  match text.span fun c ↦ c != '>' with
  | (name, '>' :: rest) => if isGroupName name then some (.openGroup (some name) [], rest) else none
  | _ => none

/-- The flags of a group, or the flags that are set up to the end of the group around them. -/
def readFlags (text : List Char) : Option (Piece × List Char) :=
  match text.span fun c ↦ c != ':' && c != ')' with
  | (letters, ':' :: rest) =>
    (FlagChange.parse? letters).map fun change ↦ (.openGroup none change, rest)
  | (letters, ')' :: rest) =>
    if letters.isEmpty then none
    else (FlagChange.parse? letters).map fun change ↦ (.setFlags change, rest)
  | _ => none

/-- What follows an opening parenthesis.  Looking ahead and behind is not supported. -/
def readGroup (verbose : Bool) : PieceReader := fun text ↦
  match skip verbose text with
  | '?' :: '=' :: _ => none
  | '?' :: '!' :: _ => none
  | '?' :: '<' :: '=' :: _ => none
  | '?' :: '<' :: '!' :: _ => none
  | '?' :: 'P' :: '<' :: rest => readGroupName rest
  | '?' :: '<' :: rest => readGroupName rest
  | '?' :: rest => readFlags rest
  | text => some (.openGroup none [], text)

/-- A question mark makes the repetition before it reluctant. -/
def withGreed (least : Nat) (most : Option Nat) : List Char → Piece × List Char
  | '?' :: rest => (.repetition least most true, rest)
  | rest => (.repetition least most false, rest)

/-- The counts of a repetition, behind its opening brace. -/
def readCounts (verbose : Bool) (text : List Char) : Option (Piece × List Char) :=
  match readCount verbose (skip verbose text) with
  | some (least, '\x7D' :: rest) => some (withGreed least (some least) (skip verbose rest))
  | some (least, ',' :: rest) =>
    match skip verbose rest with
    | '\x7D' :: rest => some (withGreed least none (skip verbose rest))
    | rest =>
      match readCount verbose rest with
      | some (most, '\x7D' :: rest) =>
        if least ≤ most then some (withGreed least (some most) (skip verbose rest)) else none
      | _ => none
  | _ => none

def readPiece (verbose : Bool) (c : Char) (rest : List Char) : Option (Piece × List Char) :=
  match c with
  | '(' => readGroup verbose rest
  | ')' => some (.closeGroup, rest)
  | '|' => some (.bar, rest)
  | '[' =>
    let (opened, rest) := readOpening verbose rest
    (readBracket verbose [] opened rest).map fun (members, rest) ↦ (.set members, rest)
  | '?' => some (withGreed 0 (some 1) rest)
  | '*' => some (withGreed 0 none rest)
  | '+' => some (withGreed 1 none rest)
  | '\x7B' => readCounts verbose rest
  | '\\' => readEscape verbose rest
  | '.' => some (.dot, rest)
  | '^' => some (.anchor .caret, rest)
  | '$' => some (.anchor .dollar, rest)
  | c => some (.literal c false, rest)

/-- Whether white space is insignificant in the current group and in the groups around it, from the
inside out. -/
structure Nesting where
  verbose : Bool
  outer : List Bool
deriving Repr, DecidableEq

/-- The nesting behind a piece; there is none behind a parenthesis that closes no group. -/
def Nesting.after? (nesting : Nesting) : Piece → Option Nesting
  | .openGroup _ change =>
    some ⟨(change.value? .verbose).getD nesting.verbose, nesting.verbose :: nesting.outer⟩
  | .setFlags change => some ⟨(change.value? .verbose).getD nesting.verbose, nesting.outer⟩
  | .closeGroup =>
    match nesting.outer with
    | [] => none
    | verbose :: outer => some ⟨verbose, outer⟩
  | _ => some nesting

/-- The pieces of a text that stands in the given nesting. -/
def readPieces (nesting : Nesting) (text : List Char) : Option (List Piece) :=
  match skip nesting.verbose text with
  | [] => some []
  | c :: rest =>
    match readPiece nesting.verbose c rest with
    | none => none
    | some (piece, rest) =>
      match nesting.after? piece with
      | none => none
      | some nesting =>
        if rest.length < text.length then (readPieces nesting rest).map (piece :: ·) else none
termination_by text.length

def pieces? (source : List Char) : Option (List Piece) := readPieces ⟨false, []⟩ source

end RecordSearch.Regex
