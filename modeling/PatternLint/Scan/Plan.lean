import PatternLint.Rule.Definition
/-!
# Scan plans

Which rules look at which files. Files come in the order of path components, and the rules of a file in the order
of the rule set. Spellings that name one file are joined under the first of them.
-/
namespace PatternLint

/-- A file and the rules that look at it. -/
structure Task where
  path : String
  rules : List Rule

/-- A selected file with its components, which are the key that tasks are sorted and joined by. -/
structure Selection where
  key : List Component
  path : String
  rule : Rule

namespace Plan

/-- All pairs of a rule and a file of it, rule by rule. -/
def selections (rules : List Rule) (candidates : List String) : List Selection :=
  rules.flatMap fun r => (r.select candidates).map fun path => ⟨Path.components path, path, r⟩

/-- Adds a selection before tasks that begin with the task of `key`, if that is its own. -/
def join (s : Selection) : List (List Component × Task) → List (List Component × Task)
  | [] => [(s.key, ⟨s.path, [s.rule]⟩)]
  | (key, t) :: ts =>
    if key = s.key then (key, ⟨s.path, s.rule :: t.rules⟩) :: ts else (s.key, ⟨s.path, [s.rule]⟩) :: (key, t) :: ts

/-- The tasks of a scan. -/
def make (rules : List Rule) (candidates : List String) : List Task :=
  let sorted := (selections rules candidates).mergeSort fun a b => (Path.compareComponents a.key b.key).isLE
  (sorted.foldr join []).map (·.2)

end Plan

end PatternLint
