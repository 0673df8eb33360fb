import RecordSearch.Unicode.Character

/-!
# Reading characters and numbers

In verbose mode white space and comments are without meaning between the units of a regular
expression and inside some of them.  The readers here take that into account; each returns what it
read and the text behind it.
-/

namespace RecordSearch.Regex

open Unicode (isBlank)

/-- Removes white space and comments from the start; a comment goes from `#` to the end of the line.
The first argument says whether the text begins inside a comment. -/
def dropComments : Bool → List Char → List Char
  | _, [] => []
  | true, c :: rest => dropComments (c != '\n') rest
  | false, c :: rest =>
    if isBlank c then dropComments false rest
    else if c = '#' then dropComments true rest
    else c :: rest

/-- The text without its insignificant start, which only verbose mode has. -/
def skip (verbose : Bool) (text : List Char) : List Char :=
  if verbose then dropComments false text else text

theorem dropComments_length_le (inside : Bool) (text : List Char) :
    (dropComments inside text).length ≤ text.length := by
  fun_induction dropComments inside text <;> simp_all <;> omega

theorem skip_length_le (verbose : Bool) (text : List Char) :
    (skip verbose text).length ≤ text.length := by
  unfold skip
  split
  · exact dropComments_length_le false text
  · exact Nat.le_refl _

/-- The longest run of characters with a property, insignificant text between and behind them left
out. -/
def collect (verbose : Bool) (property : Char → Bool) : List Char → List Char × List Char
  | [] => ([], [])
  | c :: rest =>
    if property c then
      let (run, rest) := collect verbose property (skip verbose rest)
      (c :: run, rest)
    else ([], c :: rest)
termination_by text => text.length
decreasing_by
  have := skip_length_le verbose rest
  simp only [List.length_cons]
  omega

def digitValue? (c : Char) : Option Nat :=
  if '0' ≤ c ∧ c ≤ '9' then some (c.toNat - '0'.toNat)
  else if 'a' ≤ c ∧ c ≤ 'f' then some (c.toNat - 'a'.toNat + 10)
  else if 'A' ≤ c ∧ c ≤ 'F' then some (c.toNat - 'A'.toNat + 10)
  else none

def isHexDigit (c : Char) : Bool := (digitValue? c).isSome

def numberOf (base : Nat) (digits : List Char) : Nat :=
  digits.foldl (fun number digit ↦ base * number + (digitValue? digit).getD 0) 0

def maxCount : Nat := 0xFFFFFFFF

/-- Reads a number with white space around it. -/
def readCount (verbose : Bool) (text : List Char) : Option (Nat × List Char) :=
  let (digits, rest) := collect verbose Char.isDigit (text.dropWhile isBlank)
  let count := numberOf 10 digits
  if digits.isEmpty || maxCount < count then none
  else some (count, rest.dropWhile isBlank)

def readHexDigits (verbose : Bool) : Nat → List Char → Option (List Char × List Char)
  | 0, text => some ([], text)
  | _ + 1, [] => none
  | count + 1, c :: rest =>
    if isHexDigit c then
      (readHexDigits verbose count (skip verbose rest)).map fun (digits, rest) ↦
        (c :: digits, rest)
    else none

def charOfCode? (code : Nat) : Option Char :=
  if code.isValidChar then some (Char.ofNat code) else none

end RecordSearch.Regex
