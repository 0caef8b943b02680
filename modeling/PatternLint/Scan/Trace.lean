import PatternLint.Log
import PatternLint.Scan.Plan
/-!
# Running a plan

The trace of a scan says for each file of the plan what came of it: it was not begun because the scan was
interrupted, it could not be read, or some of its rules ran. A hook that fails ends the trace.
-/
namespace PatternLint

/-- Files to scan: their paths and a way to read them. -/
structure FileSource where
  candidates : List String
  read : String → Except ReadError (List Char)

/-- The files of a store. -/
def FileStore.source (s : FileStore) : FileSource := ⟨s.candidates, s.read⟩

/-- When a scan is interrupted, as seen at the points where it looks: before a file, before each further rule of a
file, and after all files. -/
structure Interrupt where
  /-- Seen before the file with this number. -/
  beforeFile : Nat → Bool
  /-- Seen in the file with this number before the rule with this number; the first rule, number zero, runs in any
  case. -/
  beforeRule : Nat → Nat → Bool
  /-- Seen after this many files. -/
  atEnd : Nat → Bool

namespace Interrupt

def never : Interrupt := ⟨fun _ => false, fun _ _ => false, fun _ => false⟩

/-- Interrupts while the file of this number, counted from one, is read; zero interrupts before the scan. -/
def duringRead (n : Nat) : Interrupt := ⟨fun file => n ≤ file, fun file _ => n ≤ file + 1, fun files => n ≤ files⟩

end Interrupt

/-- What came of one rule on one file. -/
structure RuleRun where
  rule : String
  abandoned : List Nat
  complaints : Except String (List Complaint)

/-- What came of one file. -/
inductive FileRun where
  | unbegun (path : String)
  | unreadable (path : String) (reason : ReadError)
  | scanned (path : String) (runs : List RuleRun)

/-- A hook that failed. -/
structure HookFailure where
  rule : String
  path : String
  reason : String
deriving DecidableEq, Repr

def HookFailure.message (f : HookFailure) : String :=
  s!"hook of complainer `{f.rule}` failed on {f.path}: {f.reason}"

/-- Runs a rule on a file. -/
def Rule.run (r : Rule) (path : String) (text : List Char) : RuleRun :=
  let found := r.finder.findAll text
  ⟨r.name, found.abandoned, do pure (← found.spans.mapM (r.build path text)).flatten⟩

def RuleRun.failed (r : RuleRun) : Bool :=
  match r.complaints with
  | .ok _ => false
  | .error _ => true

/-- Runs the rules of a file from the one with the given number on, until one fails or the scan is interrupted. -/
def runRules (interrupted : Nat → Bool) (path : String) (text : List Char) : Nat → List Rule → List RuleRun
  | _, [] => []
  | i, r :: rs =>
    if 0 < i && interrupted i then []
    else
      let run := r.run path text
      if run.failed then [run] else run :: runRules interrupted path text (i + 1) rs

/-- Scans a file. -/
def Task.run (t : Task) (source : FileSource) (interrupt : Interrupt) (file : Nat) : FileRun :=
  if interrupt.beforeFile file then .unbegun t.path
  else match source.read t.path with
    | .error reason => .unreadable t.path reason
    | .ok text => .scanned t.path (runRules (interrupt.beforeRule file) t.path text 0 t.rules)

namespace FileRun

/-- The failure among the rules of a file. -/
def failure? : FileRun → Option HookFailure
  | unbegun _ | unreadable _ _ => none
  | scanned path runs => runs.findSome? fun r =>
    match r.complaints with
    | .ok _ => none
    | .error reason => some ⟨r.rule, path, reason⟩

/-- The complaints of a file that was scanned. -/
def complaints? : FileRun → Option (List Complaint)
  | unbegun _ | unreadable _ _ => none
  | scanned _ runs => some (runs.flatMap fun r => (r.complaints.toOption).getD [])

/-- The events of a file. -/
def events : FileRun → List Event
  | unbegun _ => []
  | unreadable path reason => [.fileSkipped path reason]
  | scanned path runs => runs.flatMap fun r =>
    r.abandoned.map fun offset => .attemptAbandoned Matcher.maxNesting offset path r.rule

end FileRun

/-- Scans files one after the other, from the one with the given number on, until a hook fails. -/
def trace (source : FileSource) (interrupt : Interrupt) : Nat → List Task → List FileRun
  | _, [] => []
  | file, t :: ts =>
    let run := t.run source interrupt file
    if run.failure?.isSome then [run] else run :: trace source interrupt (file + 1) ts

end PatternLint
