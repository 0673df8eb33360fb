/-!
# Runs of code points

Character tables are lists of runs in increasing order.  A run is an arithmetic progression, so the
alternating upper and lower case letters of many alphabets take one run instead of one entry per
letter.
-/

namespace RecordSearch.Unicode

/-- The code points `first`, `first + step`, …, none beyond `last`. -/
structure Run where
  first : Nat
  last : Nat
  step : Nat
deriving Repr, DecidableEq

def Run.contains (run : Run) (code : Nat) : Bool :=
  run.first ≤ code && code ≤ run.last && (code - run.first) % run.step == 0

/-- Membership in a list of runs in increasing order; the look-up ends at the first run that
starts beyond the code point. -/
def inRuns : List Run → Nat → Bool
  | [], _ => false
  | run :: runs, code =>
    if code < run.first then false else run.contains code || inRuns runs code

def inIntervals (intervals : List (Nat × Nat)) (code : Nat) : Bool :=
  intervals.any fun (first, last) ↦ first ≤ code && code ≤ last

abbrev CharClass := Char → Bool

def ofRuns (runs : List Run) : CharClass := fun c ↦ inRuns runs c.toNat

end RecordSearch.Unicode
