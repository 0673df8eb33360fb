/-!
# Shifts of code points

Case tables pair characters with characters a fixed distance away.  A shift says this of a whole
run of code points, so that a table of more than a thousand pairs takes some two hundred entries.
-/

namespace RecordSearch.Unicode

/-- Sends `first`, `first + step`, …, up to `last`, to `target`, `target + step`, …. -/
structure Shift where
  first : Nat
  last : Nat
  step : Nat
  target : Nat
deriving Repr, DecidableEq

namespace Shift

def image? (shift : Shift) (code : Nat) : Option Nat :=
  if shift.first ≤ code && code ≤ shift.last && (code - shift.first) % shift.step == 0 then
    some (shift.target + (code - shift.first))
  else
    none

/-- The code point that the shift sends to `image`, if there is one. -/
def preimage? (shift : Shift) (image : Nat) : Option Nat :=
  if shift.target ≤ image && image ≤ shift.target + (shift.last - shift.first) &&
      (image - shift.target) % shift.step == 0 then
    some (shift.first + (image - shift.target))
  else
    none

/-- The image of a code point under the first shift of a table that moves it; other code points
stay.  The table is in increasing order, so the look-up ends at the first shift that starts beyond
the code point. -/
def applyFirst : List Shift → Nat → Nat
  | [], code => code
  | shift :: shifts, code =>
    if code < shift.first then code
    else match shift.image? code with
      | some image => image
      | none => applyFirst shifts code

end Shift

end RecordSearch.Unicode
