import PatternLint.Regex.Basic
/-!
# Programs

An expression is run as a list of instructions that stand one after the other. A fork goes on at two places and
prefers the first. The code of an expression is laid out from a given address on, is left at the address after
its last instruction, and has `size` instructions.
-/
namespace PatternLint.Regex

/-- An instruction; all but `jump` and `fork` go on with the next one. -/
inductive Instr where
  /-- Consumes one character of the set. -/
  | char (set : CharSet)
  | assertion (a : Assertion)
  | jump (target : Nat)
  /-- Goes on at both places, and prefers the first. -/
  | fork (first second : Nat)
  /-- Ends a match. -/
  | done
deriving DecidableEq, Repr

/-- The number of instructions of an expression. -/
def size : Regex → Nat
  | empty => 0
  | literal text => text.length
  | set _ _ | assertion _ => 1
  | seq a b => a.size + b.size
  | alt a b => a.size + b.size + 2
  | times r 0 none _ => r.size + 2
  | times r (min + 1) none _ => (min + 1) * r.size + 1
  | times r min (some max) _ => min * r.size + (max - min) * (r.size + 1)
  | group _ r => r.size

namespace Instr

/-- A fork between going on and leaving, which prefers to go on if `greedy`. -/
def forkBy (greedy : Bool) (onward leave : Nat) : Instr :=
  if greedy then .fork onward leave else .fork leave onward

/-- `n` copies of a piece of code one after the other, where `body` writes a copy of `size` instructions. -/
def copies (body : Nat → List Instr) (size : Nat) : (n address : Nat) → List Instr
  | 0, _ => []
  | n + 1, address => body address ++ copies body size n (address + size)

/-- `n` copies each of which may be left out together with all that follow it; leaving goes to `stop`. -/
def options (body : Nat → List Instr) (size : Nat) (greedy : Bool) (stop : Nat) : (n address : Nat) → List Instr
  | 0, _ => []
  | n + 1, address =>
    forkBy greedy (address + 1) stop :: (body (address + 1) ++ options body size greedy stop n (address + 1 + size))

end Instr

/-- The code of an expression from an address on. -/
def code : Regex → Nat → List Instr
  | empty, _ => []
  | literal text, _ => text.map fun c => .char (.singleton c)
  | set s _, _ => [.char s]
  | assertion a, _ => [.assertion a]
  | seq a b, address => a.code address ++ b.code (address + a.size)
  | alt a b, address =>
    let second := address + a.size + 2
    .fork (address + 1) second :: (a.code (address + 1) ++ .jump (second + b.size) :: b.code second)
  | times r 0 none greedy, address =>
    let fork := Instr.forkBy greedy (address + 1) (address + r.size + 2)
    fork :: (r.code (address + 1) ++ [fork])
  | times r (min + 1) none greedy, address =>
    let last := address + min * r.size
    Instr.copies r.code r.size (min + 1) address ++ [.forkBy greedy last (last + r.size + 1)]
  | times r min (some max) greedy, address =>
    let stop := address + min * r.size + (max - min) * (r.size + 1)
    Instr.copies r.code r.size min address ++
      Instr.options r.code r.size greedy stop (max - min) (address + min * r.size)
  | group _ r, address => r.code address

/-- An expression made ready to be searched for. -/
structure Program where
  code : Array Instr
  /-- Whether a match can only begin where the text begins. -/
  anchored : Bool
deriving DecidableEq, Repr

/-- The program of an expression. -/
def program (r : Regex) : Program := ⟨(r.code 0 ++ [Instr.done]).toArray, r.startsText⟩

end PatternLint.Regex
