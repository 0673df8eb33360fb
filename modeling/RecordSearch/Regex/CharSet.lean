import RecordSearch.Regex.Flags
import RecordSearch.Unicode.CaseFolding
import RecordSearch.Unicode.Property

/-!
# Written character sets

A set of characters is written as a shorthand, a property or a bracket, and brackets hold sets in
turn.  Which characters a written set holds depends on the flags.  Without case, a set is closed
under equality up to case before it is negated or combined.  Under ASCII rules a set can hold ASCII
characters only, so what could reach beyond them has no meaning there.
-/

namespace RecordSearch.Regex

open Unicode (CharClass)

/-- The sets with a one-letter escape. -/
inductive Shorthand
  | digit
  | space
  | word
deriving Repr, DecidableEq

inductive SetOperator
  | intersection
  | difference
  | symmetricDifference
deriving Repr, DecidableEq

/-- A property that is asked for by name alone or by name and value. -/
inductive PropertyQuery
  | named (name : List Char)
  | valued (name value : List Char)
deriving Repr, DecidableEq

/-- A character set as it is written. -/
inductive CharSet
  | empty
  | char (c : Char)
  | range (first last : Char)
  /-- A named set of ASCII characters. -/
  | ascii (members : CharClass) (negated : Bool)
  | shorthand (kind : Shorthand) (negated : Bool)
  | property (query : PropertyQuery) (negated : Bool)
  | bracket (inner : CharSet) (negated : Bool)
  | union (left right : CharSet)
  | combine (operator : SetOperator) (left right : CharSet)

def isAscii (c : Char) : Bool := c.toNat < 0x80

def isAsciiLetter (c : Char) : Bool := 'a' ≤ c.toLower && c.toLower ≤ 'z'

def asciiSet? (name : String) : Option CharClass :=
  match name with
  | "alnum" => some fun c ↦ isAsciiLetter c || c.isDigit
  | "alpha" => some isAsciiLetter
  | "ascii" => some isAscii
  | "blank" => some fun c ↦ c == '\t' || c == ' '
  | "cntrl" => some fun c ↦ c.toNat < 0x20 || c.toNat == 0x7F
  | "digit" => some Char.isDigit
  | "graph" => some fun c ↦ '!' ≤ c && c ≤ '~'
  | "lower" => some fun c ↦ 'a' ≤ c && c ≤ 'z'
  | "print" => some fun c ↦ ' ' ≤ c && c ≤ '~'
  | "punct" => some fun c ↦ '!' ≤ c && c ≤ '~' && !isAsciiLetter c && !c.isDigit
  | "space" => some fun c ↦ (0x9 ≤ c.toNat && c.toNat ≤ 0xD) || c == ' '
  | "upper" => some fun c ↦ 'A' ≤ c && c ≤ 'Z'
  | "word" => some fun c ↦ isAsciiLetter c || c.isDigit || c == '_'
  | "xdigit" => some fun c ↦ c.isDigit || ('a' ≤ c.toLower && c.toLower ≤ 'f')
  | _ => none

def Shorthand.members (kind : Shorthand) (unicode : Bool) : CharClass :=
  match kind, unicode with
  | digit, true => Unicode.decimalDigit
  | space, true => Unicode.whiteSpace
  | word, true => Unicode.wordCharacter
  | digit, false => Char.isDigit
  | space, false => fun c ↦ (0x9 ≤ c.toNat && c.toNat ≤ 0xD) || c == ' '
  | word, false => fun c ↦ isAsciiLetter c || c.isDigit || c == '_'

/-- The characters that a property asks for, if there is such a property. -/
def PropertyQuery.members? : PropertyQuery → Option CharClass
  | named name => Unicode.property? name
  | valued name value => Unicode.propertyValue? name value

def SetOperator.apply (operator : SetOperator) (left right : CharClass) : CharClass := fun c ↦
  match operator with
  | intersection => left c && right c
  | difference => left c && !right c
  | symmetricDifference => left c != right c

def complement (members : CharClass) : CharClass := fun c ↦ !members c

/-- Adds the characters that equal a member up to case, if letters match without regard to case. -/
def closeUnderCase (flags : Flags) (members : CharClass) : CharClass :=
  if !flags.caseInsensitive then members
  else if flags.unicode then fun c ↦ (Unicode.caseVariants c).any members
  else fun c ↦ members c || members c.toLower || members c.toUpper

/-- The complement, which has no meaning under ASCII rules. -/
def negate? (flags : Flags) (negated : Bool) (members : CharClass) : Option CharClass :=
  if !negated then some members
  else if flags.unicode then some (complement members)
  else none

/-- The characters that equal `c`, up to case if letters match without regard to it. -/
def literalMembers (flags : Flags) (c : Char) : CharClass :=
  if !flags.caseInsensitive then fun other ↦ other == c
  else if flags.unicode then
    let fold := Unicode.simpleFold c
    fun other ↦ Unicode.simpleFold other == fold
  else fun other ↦ other.toLower == c.toLower

namespace CharSet

/-- The characters of a written set under the given flags, if it has a meaning there. -/
def members? (flags : Flags) : CharSet → Option CharClass
  | empty => some fun _ ↦ false
  | char c => if flags.unicode || isAscii c then some fun other ↦ other == c else none
  | range first last =>
    if flags.unicode || isAscii last then some fun other ↦ first ≤ other && other ≤ last
    else none
  | ascii members negated => negate? flags negated (closeUnderCase flags members)
  | shorthand kind negated => negate? flags negated (kind.members flags.unicode)
  | property query negated => do
    let members ← query.members?
    if flags.unicode then negate? flags negated (closeUnderCase flags members) else none
  | bracket inner negated => do
    let members ← inner.members? flags
    negate? flags negated (closeUnderCase flags members)
  | union left right => do
    let left ← left.members? flags
    let right ← right.members? flags
    some fun c ↦ left c || right c
  | combine operator left right => do
    let left ← left.members? flags
    let right ← right.members? flags
    some (operator.apply (closeUnderCase flags left) (closeUnderCase flags right))

end CharSet

end RecordSearch.Regex
