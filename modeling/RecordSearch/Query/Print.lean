import RecordSearch.Query.Expression

/-!
# Writing expressions

The written form of an expression puts parentheses around every conjunction and disjunction and
quotes around every value that a reader would not take for a single word.
-/

namespace RecordSearch.Expression

/-- Some character or the whole of a value would be misread without quotes. -/
def needsQuotes (value : String) : Bool :=
  value.isEmpty || ["and", "or", "not"].any (Text.sameLetters value) ||
    value.toList.any fun c ↦
      Unicode.isBlank c || ['(', ')', '"', '=', '!', '\\'].contains c

def escape (c : Char) : List Char := if c = '"' ∨ c = '\\' then ['\\', c] else [c]

def writeValue (value : String) : String :=
  if needsQuotes value then "\"" ++ String.ofList (value.toList.flatMap escape) ++ "\""
  else value

def write : Expression → String
  | term text => writeValue text
  | field target comparison value => target.name ++ comparison.symbol ++ writeValue value
  | not inner => "NOT " ++ inner.write
  | and left right => "(" ++ left.write ++ " AND " ++ right.write ++ ")"
  | or left right => "(" ++ left.write ++ " OR " ++ right.write ++ ")"

end RecordSearch.Expression
