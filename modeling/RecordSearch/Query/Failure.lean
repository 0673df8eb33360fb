import RecordSearch.Query.Token

/-!
# Failures

The ways in which a query text can be wrong.  A search never fails because of them: a text that is
no query is searched for as a single term, and a pattern that is no regular expression matches
nothing.  They are for telling the user why a query does not do what was meant.
-/

namespace RecordSearch

/-- The most levels to which `(` and `NOT` may nest. -/
def maxDepth : Nat := 128

/-- The most terms and field terms in one query. -/
def maxTerms : Nat := 1024

/-- What was missing where a query ended. -/
inductive Expectation
  | searchTerm
  | closingParen
deriving Repr, DecidableEq

/-- Why a query text is refused. -/
inductive Failure
  /-- A phrase is never closed; the position of its quote is counted in bytes. -/
  | unterminatedQuote (position : Nat)
  /-- A token stands where none of its kind can stand. -/
  | unexpectedToken (index : Nat) (token : Token)
  /-- The query ends too early. -/
  | unexpectedEnd (expected : Expectation)
  /-- A comparison at the end of the query. -/
  | missingValue (field : String)
  /-- The left side of a comparison is no field name. -/
  | invalidFieldName (name : String)
  | tooDeep
  | tooManyTerms
  /-- A value is searched for as a pattern and is no regular expression. -/
  | invalidPattern (value : String)
deriving Repr, DecidableEq

instance decidableEqResult {α : Type} [DecidableEq α] : DecidableEq (Except Failure α)
  | .ok value, .ok other => decidable_of_iff (value = other) (by simp)
  | .error failure, .error other => decidable_of_iff (failure = other) (by simp)
  | .ok _, .error _ => isFalse nofun
  | .error _, .ok _ => isFalse nofun

def Expectation.message : Expectation → String
  | searchTerm => "a search term"
  | closingParen => "')'"

def Failure.message : Failure → String
  | unterminatedQuote position =>
    "unterminated quoted phrase starting at position " ++ toString position
  | unexpectedToken index token =>
    "unexpected " ++ token.describe ++ " at token " ++ toString index
  | unexpectedEnd expected => "query ended unexpectedly, expected " ++ expected.message
  | missingValue field => "field '" ++ field ++ "' has an operator but no value"
  | invalidFieldName name => "'" ++ name ++ "' is not a valid field name"
  | tooDeep => "query nests deeper than " ++ toString maxDepth ++ " levels"
  | tooManyTerms => "query has more than " ++ toString maxTerms ++ " terms"
  | invalidPattern value => "invalid regex pattern: " ++ value

end RecordSearch
