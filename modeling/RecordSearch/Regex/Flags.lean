/-!
# Flags

Flags change the meaning of a regular expression from the place where they are set to the end of the
group.  They are written as letters, those behind a hyphen are switched off.
-/

namespace RecordSearch.Regex

inductive Flag
  | caseInsensitive
  | multiLine
  | dotMatchesNewline
  | swapGreed
  | unicode
  | crlf
  | verbose
deriving Repr, DecidableEq

def Flag.ofLetter? : Char → Option Flag
  | 'i' => some caseInsensitive
  | 'm' => some multiLine
  | 's' => some dotMatchesNewline
  | 'U' => some swapGreed
  | 'u' => some unicode
  | 'R' => some crlf
  | 'x' => some verbose
  | _ => none

/-- A change sets some flags on and some off. -/
abbrev FlagChange := List (Flag × Bool)

namespace FlagChange

/-- The new value of a flag, if the change concerns it. -/
def value? (change : FlagChange) (flag : Flag) : Option Bool :=
  (change.find? fun entry ↦ entry.1 == flag).map Prod.snd

/-- The changes written by letters; `on` is the value that the next letter gives to its flag.  A
hyphen stands once at most and before some letter. -/
def ofLetters? (on : Bool) : List Char → Option FlagChange
  | [] => some []
  | '-' :: letters => if on && !letters.isEmpty then ofLetters? false letters else none
  | letter :: letters => do
    let flag ← Flag.ofLetter? letter
    let change ← ofLetters? on letters
    some ((flag, on) :: change)

/-- The change that a group of letters writes; no letter may be repeated. -/
def parse? (letters : List Char) : Option FlagChange := do
  let change ← ofLetters? true letters
  if (change.map Prod.fst).Nodup then some change else none

end FlagChange

/-- The flags that bear on the meaning of what has been read. -/
structure Flags where
  /-- Letters match without regard to case. -/
  caseInsensitive : Bool := false
  /-- `^` and `$` match at lines. -/
  multiLine : Bool := false
  /-- The dot matches line ends, too. -/
  dotMatchesNewline : Bool := false
  /-- Repetitions are lazy, and lazy ones greedy. -/
  swapGreed : Bool := false
  /-- Classes and case follow Unicode, else ASCII. -/
  unicode : Bool := true
  /-- A carriage return ends a line, too. -/
  crlf : Bool := false
deriving Repr, DecidableEq

def Flags.change (flags : Flags) (change : FlagChange) : Flags where
  caseInsensitive := (change.value? .caseInsensitive).getD flags.caseInsensitive
  multiLine := (change.value? .multiLine).getD flags.multiLine
  dotMatchesNewline := (change.value? .dotMatchesNewline).getD flags.dotMatchesNewline
  swapGreed := (change.value? .swapGreed).getD flags.swapGreed
  unicode := (change.value? .unicode).getD flags.unicode
  crlf := (change.value? .crlf).getD flags.crlf

end RecordSearch.Regex
