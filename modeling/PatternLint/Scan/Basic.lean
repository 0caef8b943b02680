import PatternLint.Rule.Set
import PatternLint.Scan.Trace
import PatternLint.ScanResult
/-!
# Scanning

A scanner has rules and globs for files that no rule sees. A scan plans which rules look at which files, runs the
plan, and gathers the complaints of all files into one result. A hook that fails refuses the whole result.
-/
namespace PatternLint

structure Scanner where
  rules : RuleSet
  excluded : List Glob

namespace Scanner

/-- A scanner with the given globs to exclude and those of the settings after them. -/
def make (rules : RuleSet) (exclude : List String) (settings : Settings) : Except LoadError Scanner := do
  pure ⟨rules, ← (Glob.parseAll (exclude ++ settings.scan.exclude)).mapError .invalidExclude⟩

/-- The candidates that no glob excludes. -/
def candidates (s : Scanner) (source : FileSource) : List String :=
  source.candidates.filter fun path => !s.excluded.any (·.accepts path)

/-- The files to scan, with their rules. -/
def plan (s : Scanner) (source : FileSource) : List Task := Plan.make s.rules.rules (s.candidates source)

/-- What a scan that ran to the end of its plan found. -/
def gather (runs : List FileRun) (interrupted : Bool) : ScanResult :=
  let scanned := runs.filterMap FileRun.complaints?
  { ScanResult.aggregate scanned.flatten with filesScanned := scanned.length, interrupted }

/-- Scans the files of a source. The events are those up to the end or the failure. -/
def scan (s : Scanner) (source : FileSource) (interrupt : Interrupt) :
    List Event × Except HookFailure ScanResult :=
  let tasks := s.plan source
  let runs := trace source interrupt 0 tasks
  let events := .filesFound (s.candidates source).length :: .scanStarted tasks.length s.rules.rules.length ::
    runs.flatMap FileRun.events
  match runs.findSome? FileRun.failure? with
  | some failure => (events, .error failure)
  | none =>
    let result := gather runs (interrupt.atEnd tasks.length)
    let stopped := if result.interrupted then [Event.scanInterrupted] else []
    (events ++ stopped ++ [.scanCompleted result.total result.filesScanned], .ok result)

end Scanner

end PatternLint
