import PatternLint.Severity
import PatternLint.Toml.Document
/-!
# Settings

What a configuration text says about scanning and about single rules. Keys that no setting has are skipped, and a
value of the wrong kind refuses the whole text.
-/
namespace PatternLint

/-- How to scan. -/
structure ScanSettings where
  root : String := "."
  /-- Globs of the files that no rule sees. -/
  exclude : List String := [".git/**"]
  respectGitignore : Bool := true
  parallelism : Option Nat := none
  color : Option Bool := none
deriving DecidableEq, Repr

/-- What is set for one rule. -/
structure RuleSettings where
  enabled : Option Bool := none
  severity : Option Severity := none
deriving DecidableEq, Repr

structure Settings where
  scan : ScanSettings := {}
  /-- The settings of rules under their names. -/
  rules : List (String × RuleSettings) := []
deriving DecidableEq, Repr

namespace Settings

open Toml

/-- A severity is its name in lower case, or a table with the name as its key and nothing below it. -/
def severity? : Value → Option Severity
  | .string s => Severity.ofName? s
  | .table _ [(name, v)] => named name v
  | _ => none
where
  named (name : String) : Value → Option Severity
    | .table _ [] | .array [] => Severity.ofName? name
    | _ => none

def scan? (v : Value) : Option ScanSettings := do
  let get ← v.record? ["root", "exclude", "respect_gitignore", "parallelism", "color"]
  let default : ScanSettings := {}
  some {
    root := ← field (get "root") Value.string? default.root
    exclude := ← field (get "exclude") (Value.list? Value.string?) default.exclude
    respectGitignore := ← field (get "respect_gitignore") Value.boolean? default.respectGitignore
    parallelism := ← optionalField (get "parallelism") Value.natural?
    color := ← optionalField (get "color") Value.boolean? }

def rule? (v : Value) : Option RuleSettings := do
  let get ← v.record? ["enabled", "severity"]
  some {
    enabled := ← optionalField (get "enabled") Value.boolean?
    severity := ← optionalField (get "severity") severity? }

def rules? : Value → Option (List (String × RuleSettings))
  | .table _ entries => entries.mapM fun (name, v) => (rule? v).map (name, ·)
  | _ => none

/-- Reads a configuration text. -/
def parse? (text : List Char) : Option Settings := do
  let get ← (← Toml.parse text).record? ["scan", "rules"]
  some { scan := ← field (get "scan") scan? {}, rules := ← field (get "rules") rules? [] }

/-- Whether a rule is enabled; rules are unless they are set off. -/
def isEnabled (s : Settings) (rule : String) : Bool := ((s.rules.lookup rule).bind (·.enabled)).getD true

/-- The severity set for a rule. -/
def severityOf? (s : Settings) (rule : String) : Option Severity := (s.rules.lookup rule).bind (·.severity)

end Settings

end PatternLint
