import PatternLint.Capture.Error
import PatternLint.Grammar.Basic
import PatternLint.Grammar.LeftRecursion
import PatternLint.Regex.Compile
/-!
# Grammars made ready to run

Patterns become programs and names become positions. The start expression comes first, then the rules as first
defined, then the ignored regions; the first part that cannot be resolved decides. A grammar whose parts all
resolve is refused if a rule is left-recursive.
-/
namespace PatternLint

/-- An expression with programs as terminals and references to one of `n` rules. -/
abbrev Node (n : Nat) := Expr Regex.Program (Fin n)

/-- A grammar made ready to run. -/
structure Matcher where
  size : Nat
  start : Node size
  rules : Vector (Node size) size
  ignored : List (Node size)
  skipBlanks : Bool

namespace Grammar

/-- The name under which the start expression is reported. No rule can be called by it. -/
def startName : String := "<start>"

/-- The name under which ignored regions are reported. -/
def ignoredName : String := "<ignore>"

/-- A terminal is read with the pattern put into a group after an assertion that the text starts there. -/
def anchoredPattern (pattern : String) : String := "\\A(?:" ++ pattern ++ ")"

/-- The program of a terminal. -/
def compileTerminal (rule pattern : String) : Except CaptureError Regex.Program :=
  (Regex.compile {} (anchoredPattern pattern)).mapError (.terminal rule pattern)

/-- The position of a rule that is called from `rule`. -/
def findRule (names : List String) (rule target : String) : Except CaptureError (Fin names.length) :=
  match names.finIdxOf? target with
  | some i => if target = startName then .error (.undefinedRule rule target) else .ok i
  | none => .error (.undefinedRule rule target)

/-- An expression of a rule made ready to run. -/
def resolveIn (names : List String) (rule : String) (e : Expr String String) :
    Except CaptureError (Node names.length) :=
  e.resolve (compileTerminal rule) (findRule names rule)

/-- Whether a terminal matches the empty text. -/
def matchesEmpty (p : Regex.Program) : Bool := (p.find? (.start [])).isSome

/-- A grammar made ready to run, or the first reason against it. -/
def compile (g : Grammar) : Except CaptureError Matcher := do
  let names := g.rules.map (·.1)
  let start ← resolveIn names startName g.start
  let rules ← (Vector.mk (n := names.length) g.rules.toArray (by simp [names])).mapM
    fun (name, e) => resolveIn names name e
  let ignored ← g.ignored.mapM (resolveIn names ignoredName)
  match LeftRecursion.find? matchesEmpty start rules with
  | some i => .error (.leftRecursion (names.get i))
  | none => pure ⟨names.length, start, rules, ignored, g.skipBlanks⟩

end Grammar

end PatternLint
