/-!
# Search options

Two switches settle how the values of a query are compared with a record.
-/

namespace RecordSearch

/-- How query text is understood.  By default it is plain text, and case makes no difference. -/
structure SearchOptions where
  caseSensitive : Bool := false
  regularExpression : Bool := false
deriving Repr, DecidableEq

namespace SearchOptions

def caseLabel (options : SearchOptions) : String :=
  if options.caseSensitive then "case sensitive" else "case insensitive"

def modeLabel (options : SearchOptions) : String :=
  if options.regularExpression then "regular expression" else "plain text"

end SearchOptions

/-- The character between keywords where no other is chosen. -/
def defaultDelimiter : Char := ','

end RecordSearch
