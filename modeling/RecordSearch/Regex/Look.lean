import RecordSearch.Regex.CharSet

/-!
# Conditions on a place

Anchors and word boundaries consume nothing.  Each is a condition on the characters next to a place
in the text, of which the first and the last place have one only.
-/

namespace RecordSearch.Regex

open Unicode (CharClass)

/-- A condition on the characters before and behind a place. -/
inductive Look
  | textStart
  | textEnd
  | lineStart
  | lineEnd
  /-- As `lineStart`, where a carriage return and a line feed end one line together or alone. -/
  | lineStartCrlf
  /-- As `lineEnd`, where a carriage return and a line feed end one line together or alone. -/
  | lineEndCrlf
  | wordBoundary (word : CharClass)
  | noWordBoundary (word : CharClass)
  | wordStart (word : CharClass)
  | wordEnd (word : CharClass)
  | noWordBefore (word : CharClass)
  | noWordBehind (word : CharClass)

namespace Look

def holds (look : Look) (before behind : Option Char) : Bool :=
  match look with
  | textStart => before.isNone
  | textEnd => behind.isNone
  | lineStart => before.isNone || before == some '\n'
  | lineEnd => behind.isNone || behind == some '\n'
  | lineStartCrlf =>
    before.isNone || before == some '\n' || (before == some '\r' && behind != some '\n')
  | lineEndCrlf =>
    behind.isNone || behind == some '\r' || (behind == some '\n' && before != some '\r')
  | wordBoundary word => before.any word != behind.any word
  | noWordBoundary word => before.any word == behind.any word
  | wordStart word => !before.any word && behind.any word
  | wordEnd word => before.any word && !behind.any word
  | noWordBefore word => !before.any word
  | noWordBehind word => !behind.any word

end Look

/-- A condition as it is written. -/
inductive Anchor
  | caret
  | dollar
  | textStart
  | textEnd
  | wordBoundary
  | noWordBoundary
  | wordStart
  | wordEnd
  | wordStartHalf
  | wordEndHalf
deriving Repr, DecidableEq

/-- What an anchor stands for under the given flags. -/
def Anchor.look (flags : Flags) : Anchor → Look
  | caret =>
    if !flags.multiLine then .textStart
    else if flags.crlf then .lineStartCrlf
    else .lineStart
  | dollar =>
    if !flags.multiLine then .textEnd
    else if flags.crlf then .lineEndCrlf
    else .lineEnd
  | textStart => .textStart
  | textEnd => .textEnd
  | wordBoundary => .wordBoundary (Shorthand.word.members flags.unicode)
  | noWordBoundary => .noWordBoundary (Shorthand.word.members flags.unicode)
  | wordStart => .wordStart (Shorthand.word.members flags.unicode)
  | wordEnd => .wordEnd (Shorthand.word.members flags.unicode)
  | wordStartHalf => .noWordBefore (Shorthand.word.members flags.unicode)
  | wordEndHalf => .noWordBehind (Shorthand.word.members flags.unicode)

end RecordSearch.Regex
