import RecordSearch.Options
import RecordSearch.Text

/-!
# Words to highlight

What is highlighted is taken from the text of a query and not from its expression.  Plain text is
cut at white space.  Quotes keep white space together and are dropped, and a backslash keeps the
next character from its special meaning.  A regular expression is one word.
-/

namespace RecordSearch.Highlight

open Unicode (isBlank)

/-- Puts a word before others, unless it is empty. -/
def addWord (word : List Char) (words : List (List Char)) : List (List Char) :=
  if word.isEmpty then words else word :: words

/-- The rest of the current word and the words behind it.  The first argument says whether the text
begins inside quotes. -/
def splitFrom (quoted : Bool) : List Char → List Char × List (List Char)
  | [] => ([], [])
  | ['\\'] => (['\\'], [])
  | '\\' :: c :: rest =>
    let (word, words) := splitFrom quoted rest
    (c :: word, words)
  | '"' :: rest => splitFrom (!quoted) rest
  | c :: rest =>
    let (word, words) := splitFrom quoted rest
    if isBlank c && !quoted then ([], addWord word words) else (c :: word, words)

def plainWords (text : List Char) : List (List Char) :=
  let (word, words) := splitFrom false text
  addWord word words

def wordsOf (text : String) (options : SearchOptions) : List String :=
  if options.regularExpression then
    if text.toList.all isBlank then [] else [text]
  else (plainWords text.toList).map String.ofList

end RecordSearch.Highlight
