import RecordSearch.Regex.Piece
import RecordSearch.Regex.Reading

/-!
# Escapes

A backslash makes punctuation literal and gives a meaning to some letters: control characters,
character codes, properties, shorthands and anchors.  Before any other letter, before a digit and
before a character outside ASCII it is an error.
-/

namespace RecordSearch.Regex

def controlEscape? : Char → Option Char
  | 'a' => some '\x07'
  | 'f' => some '\x0C'
  | 't' => some '\t'
  | 'n' => some '\n'
  | 'r' => some '\r'
  | 'v' => some '\x0B'
  | _ => none

/-- A character that a backslash makes literal: ASCII, but no letter, digit or angle bracket. -/
def isEscapable (c : Char) : Bool :=
  isAscii c && !isAsciiLetter c && !c.isDigit && c != '<' && c != '>'

/-- The anchors with a one-letter escape, `\b` left out. -/
def anchorEscape? : Char → Option Anchor
  | 'A' => some .textStart
  | 'z' => some .textEnd
  | 'B' => some .noWordBoundary
  | '<' => some .wordStart
  | '>' => some .wordEnd
  | _ => none

def shorthandEscape? : Char → Option CharSet
  | 'd' => some (.shorthand .digit false)
  | 'D' => some (.shorthand .digit true)
  | 's' => some (.shorthand .space false)
  | 'S' => some (.shorthand .space true)
  | 'w' => some (.shorthand .word false)
  | 'W' => some (.shorthand .word true)
  | _ => none

def namedBoundary? (name : List Char) : Option Anchor :=
  match String.ofList name with
  | "start" => some .wordStart
  | "end" => some .wordEnd
  | "start-half" => some .wordStartHalf
  | "end-half" => some .wordEndHalf
  | _ => none

def isBoundaryNameCharacter (c : Char) : Bool := isAsciiLetter c || c == '-'

/-- What follows `\b`: a name in braces, or nothing.  Braces that begin with any other character are
left for a repetition. -/
def readBoundary (verbose : Bool) (text : List Char) : Option (Anchor × List Char) :=
  match text with
  | '\x7B' :: inside =>
    match skip verbose inside with
    | [] => none
    | c :: rest =>
      if isBoundaryNameCharacter c then
        match collect verbose isBoundaryNameCharacter (c :: rest) with
        | (name, '\x7D' :: rest) => (namedBoundary? name).map fun anchor ↦ (anchor, rest)
        | _ => none
      else some (.wordBoundary, text)
  | _ => some (.wordBoundary, text)

/-- A character by its code: so many digits, or any number of digits in braces. -/
def readCode (verbose : Bool) (digits : Nat) : PieceReader := fun text ↦
  match skip verbose text with
  | '\x7B' :: rest =>
    match collect verbose isHexDigit (skip verbose rest) with
    | (code, '\x7D' :: rest) =>
      if code.isEmpty then none
      else (charOfCode? (numberOf 16 code)).map fun c ↦ (.literal c false, rest)
    | _ => none
  | text => do
    let (code, rest) ← readHexDigits verbose digits text
    let c ← charOfCode? (numberOf 16 code)
    some (.literal c (digits == 2), rest)

/-- Splits a text at the first place where the separator stands. -/
def splitAtFirst? (separator : List Char) : List Char → Option (List Char × List Char)
  | [] => none
  | c :: rest =>
    if separator.isPrefixOf (c :: rest) then some ([], (c :: rest).drop separator.length)
    else (splitAtFirst? separator rest).map fun (before, behind) ↦ (c :: before, behind)

/-- The set that the text in the braces of a property stands for.  An exclamation mark before the
equality sign is passed over: only the letter behind the backslash negates. -/
def propertySet (negated : Bool) (text : List Char) : CharSet :=
  match splitAtFirst? ['!', '='] text <|> splitAtFirst? [':'] text <|>
      splitAtFirst? ['='] text with
  | some (name, value) => .property (.valued name value) negated
  | none => .property (.named text) negated

/-- What follows `\p` or `\P`: one letter, or braces with a name. -/
def readProperty (verbose negated : Bool) : PieceReader := fun text ↦
  match skip verbose text with
  | [] => none
  | '\x7B' :: rest =>
    match collect verbose (fun c ↦ c != '\x7D') (skip verbose rest) with
    | (name, '\x7D' :: rest) => some (.set (propertySet negated name), rest)
    | _ => none
  | c :: rest => if c = '\\' then none else some (.set (propertySet negated [c]), rest)

def readEscape (verbose : Bool) : PieceReader
  | [] => none
  | 'x' :: rest => readCode verbose 2 rest
  | 'u' :: rest => readCode verbose 4 rest
  | 'U' :: rest => readCode verbose 8 rest
  | 'p' :: rest => readProperty verbose false rest
  | 'P' :: rest => readProperty verbose true rest
  | 'b' :: rest => (readBoundary verbose rest).map fun (anchor, rest) ↦ (.anchor anchor, rest)
  | c :: rest =>
    if isEscapable c then some (.literal c false, rest)
    else match controlEscape? c, shorthandEscape? c, anchorEscape? c with
      | some c, _, _ => some (.literal c false, rest)
      | none, some members, _ => some (.set members, rest)
      | none, none, some anchor => some (.anchor anchor, rest)
      | none, none, none => none

end RecordSearch.Regex
