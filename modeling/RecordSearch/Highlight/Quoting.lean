/-!
# Quoting literal words

Highlighting patterns are handed to other programs as text, in two dialects of regular expressions.
One has block quotes: `\Q` starts a literal stretch and `\E` ends it.  The other has none, so every
character with a meaning is escaped.
-/

namespace RecordSearch.Highlight

inductive Dialect
  /-- Literal text stands between `\Q` and `\E`. -/
  | blockQuotes
  /-- Each special character of a literal text stands behind a backslash. -/
  | escapes
deriving Repr, DecidableEq

/-- Writes each `\E` of a text as the end of the block, an escaped backslash, an `E` and a new
block. -/
def splitBlocks : List Char → List Char
  | '\\' :: 'E' :: rest => '\\' :: 'E' :: '\\' :: '\\' :: 'E' :: '\\' :: 'Q' :: splitBlocks rest
  | c :: rest => c :: splitBlocks rest
  | [] => []

def blockQuote (word : List Char) : List Char :=
  '\\' :: 'Q' :: splitBlocks word ++ ['\\', 'E']

/-- The characters that need a backslash where there are no block quotes. -/
def specialCharacters : List Char :=
  ['.', '*', '+', '?', '^', '$', '\x7B', '\x7D', '(', ')', '|', '[', ']', '\\', '/']

/-- The escaped form of a character that needs one. -/
def escape? (c : Char) : Option (List Char) :=
  if specialCharacters.contains c then some ['\\', c] else none

def escape (word : List Char) : List Char := word.flatMap fun c ↦ (escape? c).getD [c]

def Dialect.quote : Dialect → List Char → List Char
  | blockQuotes => blockQuote
  | escapes => escape

end RecordSearch.Highlight
