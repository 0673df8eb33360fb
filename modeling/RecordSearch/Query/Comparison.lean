import RecordSearch.Text

/-!
# Comparisons

A field term compares a field with a value in one of three ways.  Each has a symbol, and two of them
can also be written as a word.
-/

namespace RecordSearch

/-- How a value is compared with a field. -/
inductive Comparison
  /-- The value occurs somewhere in the field. -/
  | contains
  /-- The value is the whole field. -/
  | exact
  /-- The value does not occur in the field. -/
  | excludes
deriving Repr, DecidableEq

namespace Comparison

def symbol : Comparison → String
  | contains => "="
  | exact => "=="
  | excludes => "!="

def ofSymbol? (symbol : String) : Option Comparison :=
  [contains, exact, excludes].find? fun comparison ↦ comparison.symbol == symbol

/-- The comparison that a word names, in any ASCII case. -/
def ofWord? (word : String) : Option Comparison :=
  if Text.sameLetters word "contains" then some contains
  else if Text.sameLetters word "matches" then some exact
  else none

end Comparison

end RecordSearch
