import RecordSearch.Regex.Program
import RecordSearch.Text

/-!
# Searching

A search tries the start places from the left.  From a start place the program is run by going
through the instructions in the order of preference, depth first, and no instruction is run twice at
one place; so a search takes time in proportion to the sizes of program and text.  The first match
found is the preferred one.
-/

namespace RecordSearch.Regex

structure Thread where
  address : Nat
  place : Nat
deriving Repr, DecidableEq

def before? (text : Array Char) (place : Nat) : Option Char :=
  match place with
  | 0 => none
  | index + 1 => text[index]?

/-- What follows when an instruction has been run, in the order of preference. -/
def successors (text : Array Char) (thread : Thread) : Instruction → List Thread
  | .char members =>
    if text[thread.place]?.any members then [⟨thread.address + 1, thread.place + 1⟩] else []
  | .look condition =>
    if condition.holds (before? text thread.place) text[thread.place]? then
      [⟨thread.address + 1, thread.place⟩]
    else []
  | .branch preferred other => [⟨preferred, thread.place⟩, ⟨other, thread.place⟩]
  | .jump target => [⟨target, thread.place⟩]
  | .accept => []

/-- The number of a thread; `places` is the number of places in the text. -/
def Thread.number (thread : Thread) (places : Nat) : Nat := thread.address * places + thread.place

/-- Runs the threads of a stack, from its top on, until one accepts; the place where it does so is
the result.  `visited` tells by number which threads have been run.  Each round takes fuel. -/
def run (program : Array Instruction) (text : Array Char) :
    Nat → List Thread → Array Bool → Option Nat
  | 0, _, _ => none
  | _ + 1, [], _ => none
  | fuel + 1, thread :: stack, visited =>
    let number := thread.number (text.size + 1)
    if visited.getD number true then run program text fuel stack visited
    else
      match program[thread.address]? with
      | none => run program text fuel stack visited
      | some .accept => some thread.place
      | some instruction =>
        run program text fuel (successors text thread instruction ++ stack)
          (visited.setIfInBounds number true)

/-- The end of the preferred match that starts at a given place.  Every thread is run once at most
and leaves two others at most, which bounds the number of rounds. -/
def matchEnd? (regex : Regex) (text : Array Char) (start : Nat) : Option Nat :=
  let program := regex.program
  let threads := program.size * (text.size + 1)
  run program text (2 * threads + 2) [⟨0, start⟩] (Array.replicate threads false)

def isMatch (regex : Regex) (text : Array Char) : Bool :=
  (List.range (text.size + 1)).any fun start ↦ (regex.matchEnd? text start).isSome

/-- The matches from a place on that are not empty, from left to right and without overlap.  An
empty match moves the search on by one character. -/
def matchesFrom (regex : Regex) (text : Array Char) (start : Nat) : List (Nat × Nat) :=
  if start ≤ text.size then
    match regex.matchEnd? text start with
    | none => matchesFrom regex text (start + 1)
    | some stop =>
      if start < stop then (start, stop) :: matchesFrom regex text stop
      else matchesFrom regex text (start + 1)
  else []
termination_by text.size + 1 - start

def byteOffset (text : Array Char) (place : Nat) : Nat := Text.utf8Size (text.toList.take place)

/-- The matches in a text that are not empty, as ranges of bytes. -/
def byteRanges (regex : Regex) (text : String) : List (Nat × Nat) :=
  let text := text.toList.toArray
  (matchesFrom regex text 0).map fun (start, stop) ↦ (byteOffset text start, byteOffset text stop)

end RecordSearch.Regex
