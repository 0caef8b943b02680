import PatternLint.Grammar.Compile
/-!
# Running a grammar

An expression is tried at a place and either succeeds further on or fails. Rules may call one another only down
to a given number of levels; a call below that fails, and the attempt is marked as cut off. Before a terminal the
blanks and regions that the grammar ignores are skipped. Ignored regions themselves are tried without skipping.
-/
namespace PatternLint

/-- The outcome of trying an expression: the place it leads to if it succeeds, and whether a call was cut off on
the way, whatever came of it. -/
structure Attempt where
  result : Option Cursor
  cutOff : Bool
deriving DecidableEq, Repr

namespace Attempt

/-- The same outcome after steps of which one may have been cut off. -/
def after (cutOff : Bool) (a : Attempt) : Attempt := ⟨a.result, cutOff || a.cutOff⟩

end Attempt

/-- Repeats `p` from a place where it has succeeded `count` times. A round that consumes nothing ends the
repetition and stands for all rounds that are still asked for. Every other round consumes a character at least, so
`budget` need not exceed the rest of the text. -/
def repeatFrom (p : Cursor → Attempt) (min : Nat) (max : Option Nat) (count : Nat) (cutOff : Bool) (c : Cursor)
    (budget : List Char) : Attempt :=
  if max.any (· ≤ count) then ⟨if min ≤ count then some c else none, cutOff⟩
  else
    match p c with
    | ⟨none, cut⟩ => ⟨if min ≤ count then some c else none, cutOff || cut⟩
    | ⟨some next, cut⟩ =>
      if next.offset = c.offset then ⟨some c, cutOff || cut⟩
      else
        match budget with
        | [] => ⟨if min ≤ count + 1 then some next else none, cutOff || cut⟩
        | _ :: budget => repeatFrom p min max (count + 1) (cutOff || cut) next budget

/-- Tries an expression. `lead` gives the place where a terminal is tried, and `call` runs a rule. -/
def Expr.parse {τ ρ : Type} (run : τ → Cursor → Option Cursor) (lead : Cursor → Cursor × Bool)
    (call : ρ → Cursor → Attempt) : Expr τ ρ → Cursor → Attempt
  | empty, c => ⟨some c, false⟩
  | never, _ => ⟨none, false⟩
  | literal word, c => let (c, cut) := lead c; ⟨c.strip? word, cut⟩
  | terminal t, c => let (c, cut) := lead c; ⟨run t c, cut⟩
  | any, c => let (c, cut) := lead c; ⟨c.next?, cut⟩
  | seq a b, c =>
    match a.parse run lead call c with
    | ⟨none, cut⟩ => ⟨none, cut⟩
    | ⟨some c, cut⟩ => (b.parse run lead call c).after cut
  | choice a b, c =>
    match a.parse run lead call c with
    | ⟨some c, cut⟩ => ⟨some c, cut⟩
    | ⟨none, cut⟩ => (b.parse run lead call c).after cut
  | rounds e min max, c => repeatFrom (e.parse run lead call) min max 0 false c c.rest
  | ahead e, c => let a := e.parse run lead call c; ⟨a.result.map fun _ => c, a.cutOff⟩
  | notAhead e, c => let a := e.parse run lead call c; ⟨if a.result.isSome then none else some c, a.cutOff⟩
  | rule r, c => call r c

namespace Matcher

/-- The deepest nesting of rule calls. -/
def maxNesting : Nat := 512

/-- Runs a terminal, which sees the text from its own place on. -/
def runTerminal (p : Regex.Program) (c : Cursor) : Option Cursor := (p.find? c.alone).map (·.stop)

/-- Tries an expression of the grammar with `levels` of nested calls left. -/
def parse (m : Matcher) (lead : Cursor → Cursor × Bool) : (levels : Nat) → Node m.size → Cursor → Attempt
  | 0 => Expr.parse runTerminal lead fun _ _ => ⟨none, true⟩
  | levels + 1 => Expr.parse runTerminal lead fun i => m.parse lead levels m.rules[i]

/-- Tries an expression without skipping anything. -/
def parseBare (m : Matcher) (levels : Nat) (e : Node m.size) (c : Cursor) : Attempt :=
  m.parse (fun c => (c, false)) levels e c

/-- Steps over each ignored region in turn that stands at the place reached. -/
def skipRegions (m : Matcher) (levels : Nat) (c : Cursor) : Cursor × Bool :=
  m.ignored.foldl (fun (c, cutOff) e =>
    let a := m.parseBare levels e c
    (a.result.getD c, cutOff || a.cutOff)) (c, false)

/-- One pass over blanks and ignored regions. -/
def skipOnce (m : Matcher) (levels : Nat) (c : Cursor) : Cursor × Bool :=
  m.skipRegions levels (if m.skipBlanks then c.dropWhile isBlank else c)

/-- Passes over blanks and ignored regions until a pass moves nothing. Every other pass skips a character at
least, so `budget` need not exceed the rest of the text. -/
def skipFrom (m : Matcher) (levels : Nat) (cutOff : Bool) (c : Cursor) (budget : List Char) : Cursor × Bool :=
  let (next, cut) := m.skipOnce levels c
  if next.offset = c.offset then (next, cutOff || cut)
  else
    match budget with
    | [] => (next, cutOff || cut)
    | _ :: budget => m.skipFrom levels (cutOff || cut) next budget

/-- Skips all blanks and ignored regions. -/
def skip (m : Matcher) (levels : Nat) (c : Cursor) : Cursor × Bool := m.skipFrom levels false c c.rest

/-- Tries an expression, with blanks and ignored regions skipped before each terminal. -/
def parseSkipping (m : Matcher) (levels : Nat) (e : Node m.size) (c : Cursor) : Attempt :=
  m.parse (m.skip levels) levels e c

end Matcher

end PatternLint
