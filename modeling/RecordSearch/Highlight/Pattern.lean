import RecordSearch.Highlight.Quoting
import RecordSearch.Highlight.Words
import RecordSearch.Regex.Pattern

/-!
# Highlighting patterns

The pattern of some words is an alternation with one group for each word.  It is written in one of
the dialects, for other programs, and compiled, to find the ranges to highlight without them.
-/

namespace RecordSearch.Highlight

structure Alternation where
  dialect : Dialect
  /-- The pattern as it is written in the dialect. -/
  source : String
  caseSensitive : Bool
  /-- The same pattern to search with, unless some word is no regular expression. -/
  native : Option Regex

def writeGroups (words : List (List Char)) : List Char :=
  ['|'].intercalate (words.map fun word ↦ '(' :: word ++ [')'])

namespace Alternation

/-- The pattern of some words; there is none without words. -/
def ofWords? (words : List String) (options : SearchOptions) (dialect : Dialect) :
    Option Alternation :=
  if words.isEmpty then none
  else
    let words := words.map String.toList
    let written := if options.regularExpression then words else words.map dialect.quote
    let literal := if options.regularExpression then words else words.map Regex.quote
    some {
      dialect
      source := String.ofList (writeGroups written)
      caseSensitive := options.caseSensitive
      native := Regex.compile? (writeGroups literal) (!options.caseSensitive) }

/-- The pattern can be searched for. -/
def isUsable (pattern : Alternation) : Bool := pattern.native.isSome

def isMatch (pattern : Alternation) (text : String) : Bool :=
  pattern.native.any fun regex ↦ regex.isMatch text.toList.toArray

/-- The ranges of bytes to highlight. -/
def ranges (pattern : Alternation) (text : String) : List (Nat × Nat) :=
  match pattern.native with
  | none => []
  | some regex => regex.byteRanges text

end Alternation

end RecordSearch.Highlight
