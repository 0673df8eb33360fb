import RecordSearch.Regex.Basic

/-!
# Programs

A regular expression is matched by running a list of instructions.  Each instruction but a jump, a
branch and the last one goes on to the next.  A branch goes on in two places, and what the first
place leads to is preferred.
-/

namespace RecordSearch.Regex

open Unicode (CharClass)

inductive Instruction
  /-- Consumes a character of a set. -/
  | char (members : CharClass)
  /-- Goes on if a condition holds at this place. -/
  | look (condition : Look)
  /-- Goes on at two instructions, at the first by preference. -/
  | branch (preferred other : Nat)
  | jump (target : Nat)
  /-- A match ends here. -/
  | accept

/-- A branch that prefers to go on with the body, or to leave it if it is not greedy. -/
def Instruction.choose (greedy : Bool) (body behind : Nat) : Instruction :=
  if greedy then branch body behind else branch behind body

/-- The instructions of a regular expression, to be placed at the address `base`.  A match goes on
at the address behind them. -/
def instructions (base : Nat) : Regex → List Instruction
  | .empty => []
  | .char members => [.char members]
  | .look condition => [.look condition]
  | .cat first second =>
    let first := instructions base first
    first ++ instructions (base + first.length) second
  | .alt preferred other =>
    let preferred := instructions (base + 1) preferred
    let start := base + preferred.length + 2
    let other := instructions start other
    .branch (base + 1) start :: preferred ++ .jump (start + other.length) :: other
  | .optional greedy body =>
    let body := instructions (base + 1) body
    .choose greedy (base + 1) (base + body.length + 1) :: body
  | .star greedy body =>
    let body := instructions (base + 1) body
    .choose greedy (base + 1) (base + body.length + 2) :: body ++ [.jump base]
  | .plus greedy body =>
    let body := instructions base body
    body ++ [.choose greedy base (base + body.length + 1)]

def program (regex : Regex) : Array Instruction :=
  (instructions 0 regex ++ [Instruction.accept]).toArray

end RecordSearch.Regex
