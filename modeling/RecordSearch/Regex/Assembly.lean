import RecordSearch.Regex.Pieces

/-!
# From pieces to regular expressions

The pieces of a regular expression are put together from left to right.  What is known at any time
is the innermost open group: its alternatives, the branch being read, the last item of that branch,
which a repetition applies to, and the flags in force.  Flags set inside a group end with it.

Nothing bounds how deep groups and repetitions nest, or how large an expression becomes when its
repetitions are written out.  A matcher that refuses an expression for its depth or for its size
refuses some that are read here.
-/

namespace RecordSearch.Regex

structure OpenGroup where
  /-- The flags in force at this place of the group. -/
  flags : Flags
  /-- The branches before the last bar. -/
  branches : Option Regex
  /-- The current branch without its last item. -/
  before : Regex
  /-- The last item of the branch, if it can be repeated. -/
  last : Option Regex

namespace OpenGroup

def start (flags : Flags) : OpenGroup := ⟨flags, none, .empty, none⟩

def branch (group : OpenGroup) : Regex :=
  match group.last with
  | none => group.before
  | some item => .cat group.before item

/-- The alternatives up to the current place. -/
def value (group : OpenGroup) : Regex :=
  match group.branches with
  | none => group.branch
  | some branches => .alt branches group.branch

def add (group : OpenGroup) (item : Regex) : OpenGroup :=
  { group with before := group.branch, last := some item }

def bar (group : OpenGroup) : OpenGroup :=
  { group with branches := some group.value, before := .empty, last := none }

/-- Changes flags.  A repetition cannot follow at once. -/
def change (group : OpenGroup) (change : FlagChange) : OpenGroup :=
  { group with flags := group.flags.change change, before := group.branch, last := none }

def repeatLast (group : OpenGroup) (least : Nat) (most : Option Nat) (reluctant : Bool) :
    Option OpenGroup :=
  group.last.map fun item ↦
    { group with last := some (repeated (reluctant == group.flags.swapGreed) item least most) }

end OpenGroup

/-- A character, if it can be matched under the given flags. -/
def literal? (flags : Flags) (c : Char) (asByte : Bool) : Option Regex :=
  if flags.unicode || !asByte || isAscii c then some (.char (literalMembers flags c)) else none

/-- Any character, line ends left out unless the flags say otherwise. -/
def dot? (flags : Flags) : Option Regex :=
  if !flags.unicode then none
  else if flags.dotMatchesNewline then some (.char fun _ ↦ true)
  else if flags.crlf then some (.char fun c ↦ c != '\n' && c != '\r')
  else some (.char fun c ↦ c != '\n')

/-- The groups that are open at some place of a regular expression. -/
structure Assembly where
  inner : OpenGroup
  /-- The groups around the innermost one, from the inside out. -/
  outer : List OpenGroup

namespace Assembly

def add (assembly : Assembly) (item : Regex) : Assembly :=
  { assembly with inner := assembly.inner.add item }

/-- Takes account of one more piece. -/
def step (assembly : Assembly) : Piece → Option Assembly
  | .literal c asByte => (literal? assembly.inner.flags c asByte).map assembly.add
  | .dot => (dot? assembly.inner.flags).map assembly.add
  | .set members =>
    (members.members? assembly.inner.flags).map fun members ↦ assembly.add (.char members)
  | .anchor kind => some (assembly.add (.look (kind.look assembly.inner.flags)))
  | .repetition least most reluctant =>
    (assembly.inner.repeatLast least most reluctant).map fun inner ↦ { assembly with inner }
  | .bar => some { assembly with inner := assembly.inner.bar }
  | .openGroup _ change =>
    some ⟨.start (assembly.inner.flags.change change), assembly.inner :: assembly.outer⟩
  | .closeGroup =>
    match assembly.outer with
    | [] => none
    | group :: outer => some ⟨group.add assembly.inner.value, outer⟩
  | .setFlags change => some { assembly with inner := assembly.inner.change change }

def finish? (assembly : Assembly) : Option Regex :=
  match assembly.outer with
  | [] => some assembly.inner.value
  | _ :: _ => none

end Assembly

def Piece.groupName? : Piece → Option (List Char)
  | .openGroup name _ => name
  | _ => none

/-- The regular expression that pieces write under the given flags.  Group names must differ. -/
def ofPieces? (flags : Flags) (pieces : List Piece) : Option Regex := do
  let assembly ← pieces.foldlM Assembly.step ⟨.start flags, []⟩
  if (pieces.filterMap Piece.groupName?).Nodup then assembly.finish? else none

/-- The regular expression that a text writes, if it is one. -/
def compile? (source : List Char) (caseInsensitive : Bool) : Option Regex := do
  let pieces ← pieces? source
  ofPieces? { caseInsensitive } pieces

/-- The characters that have a meaning in a regular expression. -/
def isMeta (c : Char) : Bool :=
  ['\\', '.', '+', '*', '?', '(', ')', '|', '[', ']', '\x7B', '\x7D', '^', '$', '#', '&', '-',
    '~'].contains c

/-- Writes a text as a regular expression that matches the text alone. -/
def quote (text : List Char) : List Char :=
  text.flatMap fun c ↦ if isMeta c then ['\\', c] else [c]

end RecordSearch.Regex
