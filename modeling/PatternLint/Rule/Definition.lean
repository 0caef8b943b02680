import PatternLint.Capture.Basic
import PatternLint.FileFilter
import PatternLint.Rule.Match
/-!
# Rule definitions

A definition is what an author wrote, with parts possibly missing. `RuleDefinition.check` turns it into a rule that
can run, or says what is wrong with it.
-/
namespace PatternLint

/-- Why rules or settings cannot be used. -/
inductive LoadError where
  | missingField (rule field : String)
  | invalidPattern (rule : String) (cause : CaptureError)
  | emptyGlobs (rule : String)
  | invalidGlob (rule : String) (cause : GlobError)
  /-- A glob that excludes files from the whole scan is refused. -/
  | invalidExclude (cause : GlobError)
  | unknownSeverity (context value : String)
  | duplicateName (rule first second : String)
  | unknownRule (rule : String)
  | emptyRuleSet
  | toml (source : String)
  | settings
  /-- The file with the settings cannot be read. -/
  | unreadable (path : String)
deriving DecidableEq, Repr

namespace LoadError

def message : LoadError → String
  | missingField rule field => s!"complainer `{rule}`: missing required field `{field}`"
  | invalidPattern rule _ => s!"complainer `{rule}`: invalid capture pattern"
  | emptyGlobs rule => s!"complainer `{rule}`: `glob` must list at least one pattern"
  | invalidGlob rule cause => s!"complainer `{rule}`: {cause.message}"
  | invalidExclude cause => s!"invalid exclude pattern: {cause.message}"
  | unknownSeverity context value => s!"{context}: unknown severity `{value}`"
  | duplicateName rule first second => s!"duplicate complainer name `{rule}` (from {first} and {second})"
  | unknownRule rule => s!"unknown complainer `{rule}`"
  | emptyRuleSet => "no complainers are enabled"
  | toml source => s!"{source}: invalid TOML"
  | settings => "failed to parse config"
  | unreadable path => s!"failed to read config file {path}"

/-- The word for the kind of error in diagnostic codes. -/
def code : LoadError → String
  | missingField .. => "renag::load::missing_field"
  | invalidPattern .. => "renag::load::invalid_pattern"
  | emptyGlobs .. => "renag::load::empty_globs"
  | invalidGlob .. => "renag::load::invalid_glob"
  | invalidExclude .. => "renag::load::invalid_exclude"
  | unknownSeverity .. => "renag::load::unknown_severity"
  | duplicateName .. => "renag::load::duplicate_name"
  | unknownRule .. => "renag::load::unknown_rule"
  | emptyRuleSet => "renag::load::empty_rule_set"
  | toml .. => "renag::load::toml"
  | settings | unreadable .. => "renag::load::config"

/-- A hint on how to mend the error. -/
def help? : LoadError → Option String
  | missingField .. => some "every complainer needs a name, description, capture, severity and glob"
  | emptyGlobs .. => some "use [\"*\"] to scan every file"
  | unknownSeverity .. => some "expected `warning` or `critical`"
  | unknownRule .. => some "run `renag list-rules` to see what is registered"
  | _ => none

end LoadError

/-- A rule as its author wrote it. -/
structure RuleDefinition where
  name : String := ""
  description : String := ""
  capture : Option Capture := none
  severity : Option Severity := none
  included : List String := []
  excluded : List String := []
  help : Option String := none
  hook : Option Hook := none

/-- A rule that can run. -/
structure Rule where
  info : RuleInfo
  filter : FileFilter
  finder : Finder
  hook : Option Hook

namespace Rule

def name (r : Rule) : String := r.info.name

/-- Whether the rule looks at a file. -/
def accepts (r : Rule) (path : String) : Bool := r.filter.accepts path

/-- The files of the rule among the candidates. -/
def select (r : Rule) (candidates : List String) : List String := r.filter.select candidates

/-- The complaints of the rule at one place of a file. -/
def build (r : Rule) (path : String) (text : List Char) (span : Span) : Except String (List Complaint) :=
  (Match.mk r.info path text span).build r.hook

end Rule

namespace RuleDefinition

/-- Checks a definition and makes it ready to run. The first fault decides, in the order of the checks below. -/
def check (d : RuleDefinition) : Except LoadError Rule := do
  if allBlank d.name then throw (.missingField "<unnamed>" "name")
  if allBlank d.description then throw (.missingField d.name "description")
  let some capture := d.capture | throw (.missingField d.name "capture")
  let some severity := d.severity | throw (.missingField d.name "severity")
  if d.included.isEmpty then throw (.emptyGlobs d.name)
  let included ← (Glob.parseAll d.included).mapError (.invalidGlob d.name)
  let excluded ← (Glob.parseAll d.excluded).mapError (.invalidGlob d.name)
  let finder ← capture.compile.mapError (.invalidPattern d.name)
  pure {
    info := { name := d.name, description := d.description, ownSeverity := severity, help := d.help }
    filter := ⟨included, excluded⟩
    finder
    hook := d.hook }

end RuleDefinition

end PatternLint
