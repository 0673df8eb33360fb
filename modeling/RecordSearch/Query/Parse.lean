import RecordSearch.Query.Expression
import RecordSearch.Query.Scan

/-!
# Reading expressions

The grammar of queries is

* disjunction: conjunctions with `OR` between them;
* conjunction: operands with `AND` or nothing between them;
* operand: `NOT` and an operand, or an atom;
* atom: a disjunction in parentheses, a field term, a word or a phrase;
* field term: a name, a comparison, and a word or phrase as value.

Both chains group to the left.  A word at the start of an atom is the name of a field term as soon
as a comparison follows it; the words `contains` and `matches` count as comparisons only where a
value follows them.  Parentheses and `NOT` may nest to a fixed depth, and a query has a fixed number
of terms at most.  The depth that is left is the argument on which reading recurs.
-/

namespace RecordSearch

structure Cursor where
  /-- The tokens that are still to be read. -/
  rest : List Token
  /-- The number of tokens read. -/
  index : Nat
  /-- The number of terms read. -/
  terms : Nat
deriving Repr, DecidableEq

namespace Cursor

def advance (cursor : Cursor) : Cursor :=
  { cursor with rest := cursor.rest.tail, index := cursor.index + 1 }

def countTerm (cursor : Cursor) : Except Failure Cursor :=
  if cursor.terms < maxTerms then .ok { cursor with terms := cursor.terms + 1 }
  else .error .tooManyTerms

/-- The failure of a token that cannot stand at this place. -/
def unexpected (cursor : Cursor) (token : Token) : Failure := .unexpectedToken cursor.index token

end Cursor

/-- A rule of the grammar reads an expression and says where it ends. -/
abbrev Rule := Cursor → Except Failure (Expression × Cursor)

namespace Rule

/-- The comparison that the tokens after a word begin with. -/
def comparison? : List Token → Option Comparison
  | .compare comparison :: _ => some comparison
  | .word text :: next :: _ => if next.isValue then Comparison.ofWord? text else none
  | _ => none

/-- The rest of a field term, from its value on. -/
def fieldValue (name : String) (comparison : Comparison) : Rule := fun cursor ↦
  if Field.isName name then
    match cursor.rest with
    | [] => .error (.missingValue name)
    | .word value :: _ => .ok (.field (Field.ofName name) comparison value, cursor.advance)
    | .phrase value :: _ => .ok (.field (Field.ofName name) comparison value, cursor.advance)
    | token :: _ => .error (cursor.unexpected token)
  else .error (.invalidFieldName name)

/-- A term or a field term, from the token behind its first word on. -/
def afterWord (text : String) : Rule := fun cursor ↦ do
  let cursor ← cursor.countTerm
  match comparison? cursor.rest with
  | some comparison => fieldValue text comparison cursor.advance
  | none => .ok (.term text, cursor)

/-- A term, from the token behind its phrase on.  A phrase is never the name of a field. -/
def afterPhrase (text : String) : Rule := fun cursor ↦
  match cursor.rest with
  | .compare _ :: _ => .error (.invalidFieldName text)
  | _ => do
    let cursor ← cursor.countTerm
    .ok (.term text, cursor)

def closeGroup (inner : Expression) : Rule := fun cursor ↦
  match cursor.rest with
  | [] => .error (.unexpectedEnd .closingParen)
  | .rightParen :: _ => .ok (inner, cursor.advance)
  | token :: _ => .error (cursor.unexpected token)

/-- Operands with `AND` or nothing between them, behind the operands read so far. -/
def moreOperands (operand : Rule) (left : Expression) (cursor : Cursor) :
    Except Failure (Expression × Cursor) :=
  match cursor.rest with
  | [] => .ok (left, cursor)
  | token :: _ =>
    if token = .and ∨ token.startsOperand then
      match operand (if token = .and then cursor.advance else cursor) with
      | .error failure => .error failure
      | .ok (right, next) =>
        if next.rest.length < cursor.rest.length then
          moreOperands operand (.and left right) next
        else .ok (.and left right, next)
    else .ok (left, cursor)
termination_by cursor.rest.length

def conjunction (operand : Rule) : Rule := fun cursor ↦ do
  let (first, cursor) ← operand cursor
  moreOperands operand first cursor

/-- Conjunctions with `OR` between them, behind the conjunctions read so far. -/
def moreConjunctions (operand : Rule) (left : Expression) (cursor : Cursor) :
    Except Failure (Expression × Cursor) :=
  match cursor.rest with
  | .or :: _ =>
    match conjunction operand cursor.advance with
    | .error failure => .error failure
    | .ok (right, next) =>
      if next.rest.length < cursor.rest.length then
        moreConjunctions operand (.or left right) next
      else .ok (.or left right, next)
  | _ => .ok (left, cursor)
termination_by cursor.rest.length

def disjunction (operand : Rule) : Rule := fun cursor ↦ do
  let (first, cursor) ← conjunction operand cursor
  moreConjunctions operand first cursor

/-- An atom.  `inner` reads operands one level deeper, and is missing at the deepest level. -/
def atom (inner : Option Rule) : Rule := fun cursor ↦
  match cursor.rest with
  | [] => .error (.unexpectedEnd .searchTerm)
  | .word text :: _ => afterWord text cursor.advance
  | .phrase text :: _ => afterPhrase text cursor.advance
  | .leftParen :: _ =>
    match inner with
    | none => .error .tooDeep
    | some operand => do
      let (group, cursor) ← disjunction operand cursor.advance
      closeGroup group cursor
  | token :: _ => .error (cursor.unexpected token)

/-- An operand whose parts at the next deeper level are read by `inner`. -/
def operandOver (inner : Option Rule) : Rule := fun cursor ↦
  match cursor.rest with
  | .not :: _ =>
    match inner with
    | none => .error .tooDeep
    | some operand => do
      let (negated, cursor) ← operand cursor.advance
      .ok (.not negated, cursor)
  | _ => atom inner cursor

/-- An operand under which parentheses and `NOT` may nest to the given depth. -/
def operand : Nat → Rule
  | 0 => operandOver none
  | depth + 1 => operandOver (some (operand depth))

end Rule

namespace Expression

def ofTokens (tokens : List Token) : Except Failure Expression := do
  let (expression, cursor) ← Rule.disjunction (Rule.operand maxDepth) ⟨tokens, 0, 0⟩
  match cursor.rest with
  | [] => .ok expression
  | token :: _ => .error (cursor.unexpected token)

def parse (text : String) : Except Failure Expression := do
  let tokens ← Token.tokenize text
  ofTokens tokens

end Expression

end RecordSearch
