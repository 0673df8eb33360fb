import RecordSearch.Proofs.Acceptance
import RecordSearch.Proofs.Highlighting

/-!
# Ranges to highlight

The ranges that a pattern finds can be cut out of the text one after the other: each is a match with
at least one character, none reaches into the next, and all begin and end between characters.  An
empty match is no range but still moves the search on.  So a place is missed only if some match from
there is empty, or if there is none.  The dialect has no part in this, because it is only how the
pattern is written for other programs.
-/

namespace RecordSearch

namespace Regex

variable {regex : Regex} {text : Array Char} {start stop place : Nat} {range : Nat × Nat}

section Ranges

variable {text : String}

end Ranges

end Regex

namespace Highlight

open Alternation (ofWords?)
open Regex (Matches)

variable {words : List String} {options : SearchOptions} {dialect : Dialect}
  {pattern : Alternation} {text : String}

namespace Alternation

end Alternation

end Highlight

end RecordSearch
