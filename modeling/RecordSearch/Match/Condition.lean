import RecordSearch.Match.Needle
import RecordSearch.Query.Expression
import RecordSearch.Record.Basic

/-!
# Conditions on records

A condition is an expression whose values are prepared for comparison.  It holds of a record or
not.  A term looks at the type, at all fields and at all keywords.  A comparison with a field that
a record does not have is false, also where it asks that the value be absent.
-/

namespace RecordSearch

inductive Condition
  /-- The needle occurs anywhere in a record. -/
  | term (needle : Needle)
  | field (field : Field) (comparison : Comparison) (needle : Needle)
  | not (inner : Condition)
  | and (left right : Condition)
  | or (left right : Condition)

namespace Condition

def ofExpression (options : SearchOptions) : Expression → Condition
  | .term text => term (Needle.ofValue text options)
  | .field target comparison value => field target comparison (Needle.ofValue value options)
  | .not inner => not (ofExpression options inner)
  | .and left right => and (ofExpression options left) (ofExpression options right)
  | .or left right => or (ofExpression options left) (ofExpression options right)

/-- A needle occurs in the type, in a field or in a keyword. -/
def termHolds (needle : Needle) (record : Record) (delimiter : Char) : Bool :=
  needle.occursIn record.entryType || record.fields.values.any needle.occursIn ||
    (record.keywords delimiter).any needle.occursIn

/-- What a field term looks at compares as it should. -/
def fieldHolds (target : Field) (comparison : Comparison) (needle : Needle) (record : Record)
    (delimiter : Char) : Bool :=
  match target with
  | .anyField => record.fields.values.any (needle.compare comparison)
  | .anyKeyword => (record.keywords delimiter).any (needle.compare comparison)
  | .entryType => needle.compare comparison record.entryType
  | .named name => (record.field? name).any (needle.compare comparison)

/-- The condition holds of a record, whose keywords are told apart by `delimiter`. -/
def holds (record : Record) (delimiter : Char) : Condition → Bool
  | term needle => termHolds needle record delimiter
  | field target comparison needle => fieldHolds target comparison needle record delimiter
  | not inner => !holds record delimiter inner
  | and left right => holds record delimiter left && holds record delimiter right
  | or left right => holds record delimiter left || holds record delimiter right

end Condition

end RecordSearch
