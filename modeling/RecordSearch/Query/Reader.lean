import RecordSearch.Query.Parse

/-!
# Reading with counters

The rules of the grammar, followed by a reader that moves through the tokens and keeps count.  One
counter says where it stands, one how many groups and `NOT`s are open, and one how many terms there
were.  A rule that opens a level closes it again by counting down, and a chain of operands is read
in a loop that asks of each next token whether to go on.

Nothing in the way this is written makes a run end, or keeps a counter from being taken below zero.
So every rule has a budget of calls and rounds, and a run that goes beyond it has no outcome; and a
counter at zero that is taken down stops the reader.
-/

namespace RecordSearch

/-- A reader on its way through a list of tokens. -/
structure Reader where
  tokens : List Token
  /-- The number of tokens read. -/
  position : Nat
  /-- The number of groups and `NOT`s that are open. -/
  depth : Nat
  /-- The number of terms read. -/
  terms : Nat
deriving Repr, DecidableEq

/-- A reader and the states that it has left behind, the last one first. -/
structure Journey where
  reader : Reader
  past : List Reader
deriving Repr, DecidableEq

/-- Why a reader stops early. -/
inductive Stop
  | failure (reason : Failure)
  /-- A counter at zero was taken down. -/
  | underflow
deriving Repr, DecidableEq

/-- What a reader does.  If it ends within its budget, it does so with a result or a reason to stop,
and the journey shows where it has been. -/
abbrev Reading := ExceptT Stop (StateT Journey Option)

namespace Reader

def pass (reader : Reader) : Reader := { reader with position := reader.position + 1 }

def opened (reader : Reader) : Reader := { reader with depth := reader.depth + 1 }

def closed (reader : Reader) : Reader := { reader with depth := reader.depth - 1 }

def counted (reader : Reader) : Reader := { reader with terms := reader.terms + 1 }

end Reader

namespace Reading

/-- The outcome of a reading that starts a journey, if it ends. -/
def run {α : Type} (reading : Reading α) (reader : Reader) : Option (Except Stop α × Journey) :=
  reading ⟨reader, []⟩

def fail {α : Type} (reason : Failure) : Reading α := throw (.failure reason)

def exhausted {α : Type} : Reading α := fun _ ↦ none

def here : Reading Reader := return (← get).reader

/-- Leaves the present state for another one. -/
def change (step : Reader → Reader) : Reading Unit :=
  modify fun journey ↦ ⟨step journey.reader, journey.reader :: journey.past⟩

/-- The next token, which is not passed. -/
def peek? : Reading (Option Token) := do
  let reader ← here
  return reader.tokens[reader.position]?

/-- Passes the next token, if there is one. -/
def advance? : Reading (Option Token) := do
  match ← peek? with
  | none => return none
  | some token =>
    change Reader.pass
    return some token

/-- Passes the next token if it is the given one. -/
def eat (token : Token) : Reading Bool := do
  if (← peek?) = some token then
    change Reader.pass
    return true
  else return false

/-- Opens a level, unless there are too many. -/
def enter : Reading Unit := do
  if (← here).depth < maxDepth then change Reader.opened else fail .tooDeep

def leave : Reading Unit := do
  if (← here).depth = 0 then throw .underflow else change Reader.closed

def countTerm : Reading Unit := do
  if (← here).terms < maxTerms then change Reader.counted else fail .tooManyTerms

/-- The index of the token just passed. -/
def lastIndex : Reading Nat := do
  let reader ← here
  if reader.position = 0 then throw .underflow else return reader.position - 1

/-- Passes the comparison that comes next, if one does. -/
def comparison? : Reading (Option Comparison) := do
  match ← peek? with
  | some (.compare comparison) =>
    change Reader.pass
    return some comparison
  | some (.word text) =>
    let reader ← here
    match Comparison.ofWord? text with
    | none => return none
    | some comparison =>
      if reader.tokens[reader.position + 1]?.any Token.isValue then
        change Reader.pass
        return some comparison
      else return none
  | _ => return none

def fieldValue (name : String) (comparison : Comparison) : Reading Expression := do
  if Field.isName name then
    let start ← here
    match ← advance? with
    | some (.word value) => return .field (Field.ofName name) comparison value
    | some (.phrase value) => return .field (Field.ofName name) comparison value
    | some token => fail (.unexpectedToken start.position token)
    | none => fail (.missingValue name)
  else fail (.invalidFieldName name)

def afterWord (text : String) : Reading Expression := do
  countTerm
  match ← comparison? with
  | some comparison => fieldValue text comparison
  | none => return .term text

def afterPhrase (text : String) : Reading Expression := do
  match ← peek? with
  | some (.compare _) => fail (.invalidFieldName text)
  | _ =>
    countTerm
    return .term text

def closeGroup (inner : Expression) : Reading Expression := do
  match ← advance? with
  | some .rightParen => return inner
  | some token => fail (.unexpectedToken (← lastIndex) token)
  | none => fail (.unexpectedEnd .closingParen)

mutual

/-- Conjunctions with `OR` between them. -/
def disjunction : Nat → Reading Expression
  | 0 => exhausted
  | budget + 1 => do
    let left ← conjunction budget
    moreConjunctions budget left

/-- Further conjunctions behind those read so far. -/
def moreConjunctions : Nat → Expression → Reading Expression
  | 0, _ => exhausted
  | budget + 1, left => do
    if ← eat .or then
      let right ← conjunction budget
      moreConjunctions budget (.or left right)
    else return left

def conjunction : Nat → Reading Expression
  | 0 => exhausted
  | budget + 1 => do
    let left ← operand budget
    moreOperands budget left

/-- Further operands behind those read so far. -/
def moreOperands : Nat → Expression → Reading Expression
  | 0, _ => exhausted
  | budget + 1, left => do
    let explicit ← eat .and
    let next? ← peek?
    if explicit || next?.any Token.startsOperand then
      let right ← operand budget
      moreOperands budget (.and left right)
    else return left

def operand : Nat → Reading Expression
  | 0 => exhausted
  | budget + 1 => do
    if ← eat .not then
      enter
      let inner ← operand budget
      leave
      return .not inner
    else atom budget

/-- A disjunction in parentheses, a field term, a word or a phrase. -/
def atom : Nat → Reading Expression
  | 0 => exhausted
  | budget + 1 => do
    let start ← here
    match ← advance? with
    | none => fail (.unexpectedEnd .searchTerm)
    | some .leftParen =>
      enter
      let inner ← disjunction budget
      leave
      closeGroup inner
    | some (.word text) => afterWord text
    | some (.phrase text) => afterPhrase text
    | some token => fail (.unexpectedToken start.position token)

end

/-- Nothing may follow a whole query. -/
def closeQuery (e : Expression) : Reading Expression := do
  match ← peek? with
  | none => return e
  | some token => fail (.unexpectedToken (← here).position token)

def query (budget : Nat) : Reading Expression := do
  let e ← disjunction budget
  closeQuery e

end Reading

end RecordSearch
