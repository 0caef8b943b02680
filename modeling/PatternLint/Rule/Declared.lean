import PatternLint.Rule.Definition
import PatternLint.Toml.Document
/-!
# Declared rules

The rules that a configuration text declares in its `complainer` tables. Only the severity and the comment marker
are checked here, in the order of the tables; the rest is left to `RuleDefinition.check`, as for any other rule.
-/
namespace PatternLint

/-- One `complainer` table. -/
structure Declaration where
  name : String
  description : String
  capture : Option String
  severity : String
  glob : List String
  excludeGlob : List String
  help : Option String
  options : PatternOptions
  skipCommented : Option String
deriving DecidableEq, Repr

namespace Declaration

open Toml

def fieldNames : List String :=
  ["name", "description", "capture", "severity", "glob", "exclude_glob", "help", "case_insensitive", "multi_line",
    "dot_matches_new_line", "ignore_whitespace", "skip_commented"]

/-- Reads a table. Fields that are absent are empty, and the severity is then critical. -/
def ofToml? (v : Value) : Option Declaration := do
  let get ← v.record? fieldNames
  let flag (name : String) : Option Bool := field (get name) Value.boolean? false
  some {
    name := ← field (get "name") Value.string? ""
    description := ← field (get "description") Value.string? ""
    capture := ← optionalField (get "capture") Value.string?
    severity := ← field (get "severity") Value.string? "critical"
    glob := ← field (get "glob") (Value.list? Value.string?) []
    excludeGlob := ← field (get "exclude_glob") (Value.list? Value.string?) []
    help := ← optionalField (get "help") Value.string?
    options := ⟨← flag "case_insensitive", ← flag "multi_line", ← flag "dot_matches_new_line",
      ← flag "ignore_whitespace"⟩
    skipCommented := ← optionalField (get "skip_commented") Value.string? }

/-- The rule that a table defines; `index` is its place among the tables. -/
def toDefinition (index : Nat) (d : Declaration) : Except LoadError RuleDefinition := do
  let context := if d.name.isEmpty then s!"complainer[{index}]" else s!"complainer '{d.name}'"
  let some severity := Severity.parse? d.severity | throw (.unknownSeverity context d.severity)
  if d.skipCommented = some "" then throw (.missingField d.name "skip_commented")
  pure {
    name := d.name
    description := d.description
    capture := d.capture.map (.pattern · d.options)
    severity := some severity
    included := d.glob
    excluded := d.excludeGlob
    help := d.help
    hook := d.skipCommented.map PatternLint.skipCommented }

/-- The rules of tables, of which the first has the given index. -/
def toDefinitions (index : Nat) : List Declaration → Except LoadError (List RuleDefinition)
  | [] => .ok []
  | d :: ds => do
    let def₁ ← d.toDefinition index
    let defs ← toDefinitions (index + 1) ds
    pure (def₁ :: defs)

end Declaration

/-- The rules that a configuration text declares; `source` names the text in errors. -/
def declaredRules (source : String) (text : List Char) : Except LoadError (List RuleDefinition) :=
  let declarations := do
    let get ← (← Toml.parse text).record? ["complainer"]
    Toml.field (get "complainer") (Toml.Value.list? Declaration.ofToml?) []
  match declarations with
  | none => .error (.toml source)
  | some ds => Declaration.toDefinitions 0 ds

end PatternLint
