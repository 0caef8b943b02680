import PatternLint.CharSet.ByteRanges
import PatternLint.Regex.Automaton.Tally
import Std.Data.HashMap
/-!
# Automata of sets

A set of characters is read byte by byte. States that would be equal are made once: finished states are kept in a
table of a fixed size, where a state is found again until another one with the same place takes it over.
-/
namespace PatternLint.Regex.Automaton

/-- An edge of a finished state: the bytes it reads and the number of the state that it leads to. -/
structure Edge where
  lo : Nat
  hi : Nat
  target : Nat
deriving DecidableEq, Repr

/-- Mixes a number into a hash. -/
def mix (h : UInt64) (n : Nat) : UInt64 := (h ^^^ n.toUInt64) * 1099511628211

/-- The hash of nothing. -/
def mixed : UInt64 := 14695981039346656037

/-- Finished states under their places. -/
abbrev Finished (α : Type) := Std.HashMap UInt64 (α × Nat)

/-- The number of the finished state with a key; if there is none, it is made with some memory beside its own. -/
def reuse {α : Type} [DecidableEq α] (place : UInt64) (key : α) (extra : Nat) : StateT (Finished α) Builder Nat := do
  let made : StateT (Finished α) Builder Nat := do
    let id ← add extra
    modify fun finished => finished.insert place (key, id)
    pure id
  match (← get)[place]? with
  | some (found, id) => if found = key then pure id else made
  | none => made

/-! ## Forwards

Sequences of byte ranges come in increasing order and share their beginnings. The states on the way to the last
sequence are open: they may still get edges. -/

/-- An open state: its finished edges, last first, and the bytes of the edge that leads to the next open state. -/
structure OpenState where
  edges : List Edge := []
  last : Option (Nat × Nat) := none

/-- Lets the last edge lead to a finished state. -/
def OpenState.close (s : OpenState) (target : Nat) : OpenState :=
  match s.last with
  | none => s
  | some (lo, hi) => ⟨⟨lo, hi, target⟩ :: s.edges, none⟩

/-- The place of a state with the given edges. -/
def edgesPlace (edges : List Edge) : UInt64 :=
  edges.foldl (fun h e => mix (mix (mix h e.lo) e.hi) e.target) mixed % 10000

/-- Finishes open states, the first of which is given back. The last one leads to `target`. -/
def finish (target : Nat) : List OpenState → StateT (Finished (List Edge)) Builder Nat
  | [] => pure target
  | s :: rest => do
    let next ← finish target rest
    let edges := (s.close next).edges.reverse
    reuse (edgesPlace edges) edges (edgeBytes * edges.length)

/-- Adds a sequence: where it leaves the way of the sequence before, the states of that are finished. -/
def addSequence (target : Nat) :
    List (Nat × Nat) → List OpenState → StateT (Finished (List Edge)) Builder (List OpenState)
  | r :: rs, s :: rest =>
    if s.last = some r then do pure (s :: (← addSequence target rs rest))
    else do
      let s := s.close (← finish target rest)
      pure ({ s with last := some r } :: rs.map fun r => { last := some r })
  | _, states => pure states

def addSequences (target : Nat) (states : List OpenState) :
    List (List (Nat × Nat)) → StateT (Finished (List Edge)) Builder (List OpenState)
  | [] => pure states
  | seq :: seqs => do addSequences target (← addSequence target seq states) seqs

/-- The automaton that reads a character of a set. -/
def forwardSet (seqs : List (List (Nat × Nat))) : Builder Unit := do
  let target ← add 0
  let all : StateT (Finished (List Edge)) Builder Nat := do finish target (← addSequences target [{}] seqs)
  let _ ← all.run {}

/-! ## Backwards

Each sequence is a way of its own from the last byte to the first, and ways share their ends. -/

/-- A state that reads one byte and leads to a finished state. -/
abbrev Step := Nat × Nat × Nat

/-- The place of a step. -/
def stepPlace (s : Step) : UInt64 := mix (mix (mix mixed s.1) s.2.1) s.2.2 % 1000

/-- Makes the way of a sequence to a finished state, and gives the state where it begins. -/
def addWay (target : Nat) : List (Nat × Nat) → StateT (Finished Step) Builder Nat
  | [] => pure target
  | (lo, hi) :: rs => do
    let step : Step := (target, lo, hi)
    addWay (← reuse (stepPlace step) step 0) rs

def addWays (target : Nat) : List (List (Nat × Nat)) → StateT (Finished Step) Builder Unit
  | [] => pure ()
  | seq :: seqs => do
    let _ ← addWay target seq
    grow wayBytes
    addWays target seqs

/-- The automaton that reads a character of a set from its last byte to its first. -/
def backwardSet (seqs : List (List (Nat × Nat))) : Builder Unit := do
  addPlain
  let target ← add 0
  let _ ← (addWays target seqs).run {}

/-! ## Both -/

/-- The automaton of a set. One among the first 128 characters is a single state with its target. -/
def addSet (backward : Bool) (s : CharSet) : Builder Unit :=
  if s.isAscii then do
    addPlain
    let _ ← add (edgeBytes * s.ranges.length)
  else if backward then backwardSet s.byteRanges
  else forwardSet s.byteRanges

/-- At least as many bytes as the automata of a set take. -/
def setBound (s : CharSet) : Nat :=
  if s.isAscii then 2 * stateBytes + edgeBytes * s.ranges.length
  else s.byteRanges.foldl (fun n seq => n + seq.length * stateBytes + wayBytes) (2 * stateBytes)

end PatternLint.Regex.Automaton
