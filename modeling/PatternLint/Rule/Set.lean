import PatternLint.Log
import PatternLint.Rule.Definition
import PatternLint.Settings.Basic
/-!
# Rule sets

The rules of all sources in their order, each checked, no two with one name. Settings may put rules off or give them
another severity; rules that are off are checked all the same. A set without rules is refused.
-/
namespace PatternLint

/-- Where rules come from: a name for messages, and the definitions, if they can be had. -/
structure RuleSource where
  name : String
  definitions : Except LoadError (List RuleDefinition)

/-- The name of the source of rules that are given directly. -/
def inlineSource (definitions : List RuleDefinition) : RuleSource := ⟨"inline definitions", .ok definitions⟩

/-- The rules loaded so far, last first, and the names seen so far with their sources. -/
structure Loading where
  rules : List Rule := []
  origins : List (String × String) := []

namespace Loading

/-- Takes one definition in. -/
def addDefinition (settings : Settings) (source : String) (index : Nat) (d : RuleDefinition) (l : Loading) :
    Except LoadError Loading := do
  if allBlank d.name then throw (.missingField s!"[{index}] in {source}" "name")
  let rule ← d.check
  if let some first := l.origins.lookup rule.name then throw (.duplicateName rule.name first source)
  let origins := (rule.name, source) :: l.origins
  if settings.isEnabled rule.name then
    let rule := { rule with info := { rule.info with setSeverity := settings.severityOf? rule.name } }
    pure ⟨rule :: l.rules, origins⟩
  else pure ⟨l.rules, origins⟩

/-- Takes the definitions of a source in, of which the first has the given index. -/
def addDefinitions (settings : Settings) (source : String) (index : Nat) :
    List RuleDefinition → Loading → Except LoadError Loading
  | [], l => .ok l
  | d :: ds, l => do addDefinitions settings source (index + 1) ds (← addDefinition settings source index d l)

/-- Takes all sources in. -/
def addSources (settings : Settings) : List RuleSource → Loading → Except LoadError Loading
  | [], l => .ok l
  | s :: ss, l => do addSources settings ss (← addDefinitions settings s.name 0 (← s.definitions) l)

/-- The names in the settings that no source defines. -/
def unknownNames (settings : Settings) (l : Loading) : List String :=
  (settings.rules.map (·.1)).filter fun name => (l.origins.lookup name).isNone

end Loading

/-- The rules of a run, in the order of their sources. -/
structure RuleSet where
  rules : List Rule

namespace RuleSet

/-- Loads the rules of some sources. The events are those up to the end or the fault. -/
def load (sources : List RuleSource) (settings : Settings) : List Event × Except LoadError RuleSet :=
  match Loading.addSources settings sources {} with
  | .error e => ([], .error e)
  | .ok l =>
    let unknown := (l.unknownNames settings).map Event.unknownRule
    if l.rules.isEmpty then (unknown, .error .emptyRuleSet)
    else (unknown ++ [.rulesLoaded l.rules.length], .ok ⟨l.rules.reverse⟩)

/-- The rule of a name. -/
def get? (s : RuleSet) (name : String) : Option Rule := s.rules.find? (·.name = name)

/-- The rules with the given names, in the order of the set. -/
def only (s : RuleSet) (names : List String) : Except LoadError RuleSet :=
  match names.find? fun name => (s.get? name).isNone with
  | some name => .error (.unknownRule name)
  | none =>
    let rules := s.rules.filter fun r => names.contains r.name
    if rules.isEmpty then .error .emptyRuleSet else .ok ⟨rules⟩

end RuleSet

end PatternLint
