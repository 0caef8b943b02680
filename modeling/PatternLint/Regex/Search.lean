import PatternLint.Regex.Program
import PatternLint.Text.Cursor
/-!
# Search

A program is run on a text with many threads at once, which all stand at the same place. They are kept in order
of preference, and at any place only the first thread that reaches an instruction lives on. When a thread ends a
match, the threads after it are dropped and those before it go on, so the last match found is the preferred one.
While no match is found, a new thread starts at each place after all the others: the leftmost match wins.
-/
namespace PatternLint.Regex

/-- A thread: the instruction it stands at, and the offset at which it started. -/
structure Thread where
  address : Nat
  start : Nat
deriving DecidableEq, Repr

/-- The threads at a place, last first, and for each instruction whether it was visited there. -/
structure Frontier where
  visited : Array Bool
  threads : List Thread := []
deriving DecidableEq, Repr

namespace Frontier

/-- Nothing was visited of a program of the given size. -/
def start (size : Nat) : Frontier := { visited := .replicate size false }

/-- Whether an instruction was visited. There are none past the end of the program, so they count as visited. -/
def isVisited (fr : Frontier) (address : Nat) : Bool := fr.visited.getD address true

def visit (fr : Frontier) (address : Nat) : Frontier := { fr with visited := fr.visited.setIfInBounds address true }

def push (fr : Frontier) (t : Thread) : Frontier := { fr with threads := t :: fr.threads }

end Frontier

/-- A match: where it starts, and the place where it ends. -/
structure Found where
  start : Nat
  stop : Cursor
deriving DecidableEq, Repr

namespace Program

/-- Follows a thread to the instructions where it consumes a character or ends. Each call visits a new
instruction, so the size of the program is enough `fuel`. -/
def follow (p : Program) (before after : Option Char) (start : Nat) : (fuel address : Nat) → Frontier → Frontier
  | 0, _, fr => fr
  | fuel + 1, address, fr =>
    if fr.isVisited address then fr
    else
      let fr := fr.visit address
      match p.code[address]? with
      | none => fr
      | some (.char _) | some .done => fr.push ⟨address, start⟩
      | some (.assertion a) =>
        if a.holds before after then p.follow before after start fuel (address + 1) fr else fr
      | some (.jump target) => p.follow before after start fuel target fr
      | some (.fork first second) =>
        p.follow before after start fuel second (p.follow before after start fuel first fr)

/-- The threads up to the first that ends a match, and the start of that match. -/
def settle (p : Program) : List Thread → List Thread × Option Nat
  | [] => ([], none)
  | t :: ts =>
    match p.code[t.address]? with
    | some .done => ([], some t.start)
    | _ => let (live, won) := p.settle ts; (t :: live, won)

/-- Starts a thread at a place, unless there is a match or none can begin there. -/
def enter (p : Program) (before after : Option Char) (offset : Nat) (best : Option Found) (fr : Frontier) : Frontier :=
  if best.isSome || (p.anchored && before.isSome) then fr
  else p.follow before after offset p.code.size 0 fr

/-- Lets a thread consume `c`, which then stands before the new place. -/
def advance (p : Program) (c : Char) (after : Option Char) (fr : Frontier) (t : Thread) : Frontier :=
  match p.code[t.address]? with
  | some (.char s) => if s.contains c then p.follow (some c) after t.start p.code.size (t.address + 1) fr else fr
  | _ => fr

/-- Runs the threads from a place on. `best` is the preferred match so far. -/
def run (p : Program) (before : Option Char) (offset : Nat) (fr : Frontier) (best : Option Found) :
    List Char → Option Found
  | [] =>
    let fr := p.enter before none offset best fr
    match (p.settle fr.threads.reverse).2 with
    | some start => some ⟨start, ⟨before, offset, []⟩⟩
    | none => best
  | c :: cs =>
    let fr := p.enter before (some c) offset best fr
    let (live, won) := p.settle fr.threads.reverse
    let best := match won with
      | some start => some ⟨start, ⟨before, offset, c :: cs⟩⟩
      | none => best
    if live.isEmpty && (best.isSome || p.anchored) then best
    else p.run (some c) (offset + c.utf8Size) (live.foldl (p.advance c cs.head?) (.start p.code.size)) best cs

/-- The leftmost match at or after a place. -/
def find? (p : Program) (c : Cursor) : Option Found := p.run c.before c.offset (.start p.code.size) none c.rest

/-- The matches from a place on, each after the end of the one before; an empty match is left out where the match
before it ended. `found` holds the matches so far, last first. There is at most one more than there are characters,
which is enough `fuel`. -/
def findFrom (p : Program) (c : Cursor) (last : Option Nat) (found : List Found) : (fuel : Nat) → List Found
  | 0 => found.reverse
  | fuel + 1 =>
    match p.find? c with
    | none => found.reverse
    | some m =>
      if m.start = m.stop.offset ∧ last = some m.stop.offset then
        match c.next?.bind p.find? with
        | none => found.reverse
        | some m => p.findFrom m.stop (some m.stop.offset) (m :: found) fuel
      else p.findFrom m.stop (some m.stop.offset) (m :: found) fuel

/-- All matches in a text, from left to right and without overlap. -/
def findAll (p : Program) (text : List Char) : List Found := p.findFrom (.start text) none [] (text.length + 1)

end Program

end PatternLint.Regex
