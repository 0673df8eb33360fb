import RecordSearch.Regex.Assembly
import RecordSearch.Regex.Search

/-!
# Patterns

A pattern is a regular expression together with the text that writes it.
-/

namespace RecordSearch

structure Pattern where
  source : String
  regex : Regex

namespace Pattern

/-- The pattern that a text writes, if it is a regular expression. -/
def compile? (source : String) (caseInsensitive : Bool) : Option Pattern :=
  (Regex.compile? source.toList caseInsensitive).map fun regex ↦ ⟨source, regex⟩

def isMatch (pattern : Pattern) (text : String) : Bool := pattern.regex.isMatch text.toList.toArray

end Pattern

end RecordSearch
