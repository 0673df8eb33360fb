import RecordSearch.Query.Comparison

/-!
# Tokens

A query text is a sequence of words, quoted phrases, parentheses, comparison symbols and the
keywords `AND`, `OR` and `NOT`.
-/

namespace RecordSearch

/-- The units of a query text. -/
inductive Token
  | leftParen
  | rightParen
  | and
  | or
  | not
  | compare (comparison : Comparison)
  /-- A run of characters without quotes. -/
  | word (text : String)
  /-- The content of a quoted phrase. -/
  | phrase (text : String)
deriving Repr, DecidableEq

namespace Token

def startsOperand : Token → Bool
  | leftParen | not | word _ | phrase _ => true
  | rightParen | and | or | compare _ => false

def isValue : Token → Bool
  | word _ | phrase _ => true
  | _ => false

/-- How a token is named in an error message. -/
def describe : Token → String
  | leftParen => "'('"
  | rightParen => "')'"
  | and => "AND"
  | or => "OR"
  | not => "NOT"
  | compare comparison => "'" ++ comparison.symbol ++ "'"
  | word text => "word '" ++ text ++ "'"
  | phrase text => "phrase \"" ++ text ++ "\""

/-- The token of a run of characters without quotes: a keyword in any ASCII case, else a word. -/
def ofWord (text : String) : Token :=
  if Text.sameLetters text "and" then and
  else if Text.sameLetters text "or" then or
  else if Text.sameLetters text "not" then not
  else word text

end Token

end RecordSearch
