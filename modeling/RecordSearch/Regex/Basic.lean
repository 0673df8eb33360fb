import RecordSearch.Regex.Look

/-!
# Regular expressions

The meaning of a regular expression with its flags worked in: characters of a set, conditions on a
place, and the ways to combine them.  Of two alternatives the left one is preferred.  A greedy
repetition prefers to go on, a lazy one prefers to stop.
-/

namespace RecordSearch

open Unicode (CharClass)

inductive Regex
  | empty
  /-- One character of a set. -/
  | char (members : CharClass)
  /-- No character, at a place with the given property. -/
  | look (condition : Regex.Look)
  | cat (first second : Regex)
  | alt (preferred other : Regex)
  /-- Nothing or the body. -/
  | optional (greedy : Bool) (body : Regex)
  /-- The body any number of times; the body must not match the empty text. -/
  | star (greedy : Bool) (body : Regex)
  /-- The body once or more often. -/
  | plus (greedy : Bool) (body : Regex)

namespace Regex

/-- Some match may be empty. -/
def canBeEmpty : Regex → Bool
  | empty => true
  | char _ => false
  | look _ => true
  | cat first second => first.canBeEmpty && second.canBeEmpty
  | alt preferred other => preferred.canBeEmpty || other.canBeEmpty
  | optional _ _ => true
  | star _ _ => true
  | plus _ body => body.canBeEmpty

def zeroOrMore (greedy : Bool) (body : Regex) : Regex :=
  if body.canBeEmpty then optional greedy (plus greedy body) else star greedy body

def power (body : Regex) : Nat → Regex
  | 0 => empty
  | count + 1 => cat body (power body count)

/-- The body at most so many times. -/
def upTo (greedy : Bool) (body : Regex) : Nat → Regex
  | 0 => empty
  | count + 1 => optional greedy (cat body (upTo greedy body count))

/-- The body at least `least` times and, if there is a bound, at most `most` times. -/
def repeated (greedy : Bool) (body : Regex) (least : Nat) (most : Option Nat) : Regex :=
  match most with
  | some most => cat (power body least) (upTo greedy body (most - least))
  | none =>
    match least with
    | 0 => zeroOrMore greedy body
    | count + 1 => cat (power body count) (plus greedy body)

end Regex

end RecordSearch
