import PatternLint.Rule.Set
/-!
# The built-in rules

Three rules that need no configuration: leftover print calls and complete pprint calls in Python files, and merge
conflict markers in any file.
-/
namespace PatternLint.Builtin

/-- Calls of `print`, unless they are commented out. -/
def debugPrint (severity : Severity) : RuleDefinition where
  name := "debug-print"
  description := "print() call left in the code."
  capture := some (.pattern "\\bprint\\s*\\(" {})
  severity := some severity
  included := ["*.py"]
  help := some "Use the logging module, or remove the call."
  hook := some (skipCommented "#")

/-- Calls of `pprint` up to the parenthesis that closes them; comments and string literals are stepped over. -/
def pprintGrammar : Grammar :=
  let base : Grammar := { start := .all [.literal "pprint".toList, .rule "call"] }
  let regions : List String :=
    ["#[^\\n]*", "\"\"\"(?s:.*?)\"\"\"", "'''(?s:.*?)'''", "\"(?:[^\"\\\\\\n]|\\\\.)*\"", "'(?:[^'\\\\\\n]|\\\\.)*'"]
  (regions.foldl (fun g r => g.ignore (.terminal r)) (base.nested "call" "(" ")")).skippingBlanks true

/-- Calls of `pprint`, outside tests. -/
def pprintUsage (severity : Severity) : RuleDefinition where
  name := "pprint-usage"
  description := "pprint() call left in the code."
  capture := some (.grammar pprintGrammar)
  severity := some severity
  included := ["*.py"]
  excluded := ["test_*.py"]
  help := some "Use the logging module with pprint.pformat() instead."

/-- Lines that a merge leaves behind. -/
def mergeConflictMarker : RuleDefinition where
  name := "merge-conflict-marker"
  description := "Unresolved merge conflict marker."
  capture := some (.pattern "^(?:<\x7b7\x7d|\\|\x7b7\x7d|=\x7b7\x7d|>\x7b7\x7d)(?: [^\\n]*)?\\r?$" { multiLine := true })
  severity := some .critical
  included := ["*"]
  help := some "Resolve the conflict and remove the markers."

def definitions : List RuleDefinition := [debugPrint .warning, pprintUsage .warning, mergeConflictMarker]

/-- The built-in rules as a source. -/
def source : RuleSource := ⟨"built-in rules", .ok definitions⟩

end PatternLint.Builtin
