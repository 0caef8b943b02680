/-!
# Counting the states of an automaton

A pattern is matched by automata that read bytes, and their memory is limited. They are not built here: a tally counts
the states that would be made and the memory that they take, and gives up once the limit is passed.
-/
namespace PatternLint.Regex.Automaton

/-- The most bytes that an automaton may take. -/
def maxBytes : Nat := 10 * 1024 * 1024

/-- The bytes of a state. -/
def stateBytes : Nat := 32

/-- The bytes of an edge of a state with several edges. -/
def edgeBytes : Nat := 8

/-- The bytes of one of the ways on from a fork. -/
def wayBytes : Nat := 4

/-- How many states there are, and how many bytes they take. -/
structure Tally where
  states : Nat := 0
  bytes : Nat := 0
deriving DecidableEq, Repr

/-- Makes states; `none` if they take too much memory. -/
abbrev Builder := StateT Tally Option

/-- Takes memory for the states that there are. -/
def grow (bytes : Nat) : Builder Unit := fun t =>
  let t := { t with bytes := t.bytes + bytes }
  if maxBytes < t.bytes then none else some ((), t)

/-- Makes a state with memory beside its own, and gives its number. -/
def add (extra : Nat) : Builder Nat := fun t =>
  let made : Tally := ⟨t.states + 1, t.bytes + (stateBytes + extra)⟩
  if maxBytes < made.bytes then none else some (t.states, made)

/-- Makes a state without further memory. -/
def addPlain : Builder Unit := do
  let _ ← add 0

/-- Connects a part of the automaton to what follows. A part that is left by a fork gets a further way on. -/
def link (forked : Bool) : Builder Unit := if forked then grow wayBytes else pure ()

/-- Makes the same part `n` times, one after the other. `forked` says whether what stands before is left by a fork, and
the result says it of the last part. -/
def copies (part : Builder Bool) : (n : Nat) → (forked : Bool) → Builder Bool
  | 0, forked => pure forked
  | n + 1, forked => do
    link forked
    let forked ← part
    copies part n forked

/-- Makes the same part `n` times, each after a fork that may leave out the rest. -/
def options (part : Builder Bool) : (n : Nat) → (forked : Bool) → Builder Bool
  | 0, forked => pure forked
  | n + 1, forked => do
    link forked
    let _ ← add (2 * wayBytes)
    let forked ← part
    options part n forked

end PatternLint.Regex.Automaton
