import RecordSearch.Regex.Escape

/-!
# Brackets

A bracket lists characters, ranges, escapes and other brackets.  Two ampersands, hyphens or tildes
combine what stands before them with what stands behind them.  The brackets that are open are kept
in a list, so that one pass over the text reads them all.
-/

namespace RecordSearch.Regex

structure OpenBracket where
  negated : Bool
  /-- The operator that waits for its right side, with its left side. -/
  pending : Option (SetOperator × CharSet)
  /-- The union of the items behind the operator. -/
  items : CharSet

namespace OpenBracket

def add (bracket : OpenBracket) (item : CharSet) : OpenBracket :=
  { bracket with items := .union bracket.items item }

def value (bracket : OpenBracket) : CharSet :=
  match bracket.pending with
  | none => bracket.items
  | some (operator, left) => .combine operator left bracket.items

/-- Goes on behind an operator; operators group to the left. -/
def combine (bracket : OpenBracket) (operator : SetOperator) : OpenBracket :=
  { bracket with pending := some (operator, bracket.value), items := .empty }

end OpenBracket

/-- The start of a bracket behind `[`: a caret negates, hyphens at the start are items, and so is a
closing bracket at the very start. -/
def readOpening (verbose : Bool) (text : List Char) : OpenBracket × List Char :=
  let (negated, text) := match skip verbose text with
    | '^' :: rest => (true, skip verbose rest)
    | text => (false, text)
  let (hyphens, text) := collect verbose (fun c ↦ c == '-') text
  if hyphens.isEmpty then
    match text with
    | ']' :: rest => (⟨negated, none, .char ']'⟩, skip verbose rest)
    | _ => (⟨negated, none, .empty⟩, text)
  else (⟨negated, none, .char '-'⟩, text)

/-- A named ASCII set such as `[:alpha:]`, behind its first bracket. -/
def readAsciiSet (text : List Char) : Option (CharSet × List Char) :=
  match text with
  | ':' :: rest =>
    let (negated, rest) := match rest with
      | '^' :: rest => (true, rest)
      | _ => (false, rest)
    match rest.span fun c ↦ c != ':' with
    | (name, ':' :: ']' :: rest) =>
      (asciiSet? (String.ofList name)).map fun members ↦ (.ascii members negated, rest)
    | _ => none
  | _ => none

def readMember (verbose : Bool) : PieceReader
  | [] => none
  | '\\' :: rest => readEscape verbose rest
  | c :: rest => some (.literal c false, rest)

/-- The next significant character, where a `#` is passed over once. -/
def nextSignificant? (verbose : Bool) (text : List Char) : Option Char :=
  if verbose then
    match text.dropWhile Unicode.isBlank with
    | '#' :: rest => (rest.dropWhile Unicode.isBlank).head?
    | rest => rest.head?
  else text.head?

/-- A range, or a single member that no hyphen makes the start of a range. -/
def readItem (verbose : Bool) (text : List Char) : Option (CharSet × List Char) := do
  let (first, rest) ← readMember verbose text
  let single := match first with
    | .literal c _ => some (.char c, skip verbose rest)
    | .set members => some (members, skip verbose rest)
    | _ => none
  match skip verbose rest with
  | '-' :: behind =>
    match nextSignificant? verbose behind with
    | some ']' => single
    | some '-' => single
    | _ =>
      let (last, rest) ← readMember verbose (skip verbose behind)
      match first, last with
      | .literal first _, .literal last _ =>
        if first ≤ last then some (.range first last, rest) else none
      | _, _ => none
  | _ => single

def readOperator : List Char → Option (SetOperator × List Char)
  | '&' :: '&' :: rest => some (.intersection, rest)
  | '-' :: '-' :: rest => some (.difference, rest)
  | '~' :: '~' :: rest => some (.symmetricDifference, rest)
  | _ => none

/-- Reads to the end of the outermost of the open brackets.  `outer` holds the brackets around the
innermost one, from the inside out. -/
def readBracket (verbose : Bool) (outer : List OpenBracket) (inner : OpenBracket)
    (text : List Char) : Option (CharSet × List Char) :=
  match skip verbose text with
  | [] => none
  | ']' :: rest =>
    let closed := CharSet.bracket inner.value inner.negated
    match outer with
    | [] => some (closed, rest)
    | parent :: outer =>
      if rest.length < text.length then readBracket verbose outer (parent.add closed) rest else none
  | '[' :: rest =>
    match readAsciiSet rest with
    | some (item, rest) =>
      if rest.length < text.length then readBracket verbose outer (inner.add item) rest else none
    | none =>
      let (opened, rest) := readOpening verbose rest
      if rest.length < text.length then readBracket verbose (inner :: outer) opened rest else none
  | current =>
    match readOperator current with
    | some (operator, rest) =>
      if rest.length < text.length then readBracket verbose outer (inner.combine operator) rest
      else none
    | none =>
      match readItem verbose current with
      | none => none
      | some (item, rest) =>
        if rest.length < text.length then readBracket verbose outer (inner.add item) rest else none
termination_by text.length

end RecordSearch.Regex
