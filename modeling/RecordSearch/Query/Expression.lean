import RecordSearch.Query.Comparison
import RecordSearch.Query.Field

/-!
# Query expressions

An expression is what a query text says, with values as they were typed.  What the values mean is
settled only when an expression is matched, because it depends on the search options.
-/

namespace RecordSearch

inductive Expression
  /-- A word or phrase that is searched for everywhere. -/
  | term (text : String)
  /-- A comparison of a field with a value. -/
  | field (field : Field) (comparison : Comparison) (value : String)
  | not (inner : Expression)
  | and (left right : Expression)
  | or (left right : Expression)
deriving Repr, DecidableEq

namespace Expression

/-- The texts of the terms and the values of the field terms, from left to right. -/
def values : Expression → List String
  | term text => [text]
  | field _ _ value => [value]
  | not inner => inner.values
  | and left right => left.values ++ right.values
  | or left right => left.values ++ right.values

def leaves : Expression → Nat
  | term _ => 1
  | field _ _ _ => 1
  | not inner => inner.leaves
  | and left right => left.leaves + right.leaves
  | or left right => left.leaves + right.leaves

/-- The largest number of operators on a path from the whole expression to a leaf. -/
def height : Expression → Nat
  | term _ => 0
  | field _ _ _ => 0
  | not inner => inner.height + 1
  | and left right => max left.height right.height + 1
  | or left right => max left.height right.height + 1

end Expression

end RecordSearch
