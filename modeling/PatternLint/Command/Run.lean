import PatternLint.Command.Arguments
import PatternLint.Command.Help
import PatternLint.Command.Starter
import PatternLint.Ignore.Walk
import PatternLint.Report.Json
import PatternLint.Report.Text
import PatternLint.Rule.Builtin
import PatternLint.Rule.Declared
import PatternLint.Scan.Basic
import Std.Data.HashMap
/-!
# Running commands

A command reads settings and rules from the configuration that it finds, does its work, and ends with a status and
texts for the two outputs. `Command.run` works on any file system.
-/
namespace PatternLint

/-- What a run leaves. -/
structure Output where
  status : Nat
  stdout : String := ""
  stderr : String := ""
  events : List Event := []

/-- Why a command fails. -/
inductive RunError where
  | load (e : LoadError)
  | scan (message : String)
  /-- The starter configuration cannot be written. -/
  | init (message : String)

namespace RunError

def status : RunError → ExitStatus
  | load _ | init _ => .loadFailure
  | scan _ => .scanFailure

/-- The text of a failure. -/
def message : RunError → String
  | load e =>
    let help := e.help?.elim "" fun help => s!"\n  help: {help}"
    s!"renag: load error:\n{e.code}\n\n  {e.message}{help}"
  | scan message => s!"renag: scan error: {message}"
  | init message => s!"renag: {message}"

end RunError

namespace Command

variable {m : Type → Type} [Monad m]

/-- The configuration for a directory: the one that is given, one in the directory, or the user's. -/
def configuration? (fs : FileSystem m) (dir : String) (given : Option String) : m (Option String) := do
  if let some path := given then return some path
  for name in ["renag.toml", ".renag.toml"] do
    if ← fs.isFile (Path.join dir name) then return some (Path.join dir name)
  let userDir ← match ← fs.setting? "RENAG_CONFIG_DIR" with
    | some dir => pure (some dir)
    | none => pure ((← fs.setting? "HOME").map (Path.join · ".renag"))
  match userDir with
  | none => return none
  | some dir =>
    let path := Path.join dir "config.toml"
    if ← fs.isFile path then return some path
    return none

/-- The settings and the sources of rules for a directory. -/
def loadConfiguration (fs : FileSystem m) (dir : String) (given : Option String) :
    m (Except LoadError (Settings × List RuleSource)) := do
  match ← configuration? fs dir given with
  | none => pure (.ok ({}, [Builtin.source]))
  | some path =>
    match (← fs.read path).toOption.bind fun bytes => (Utf8.decode bytes).toOption with
    | none => pure (.error (.unreadable path))
    | some text =>
      match Settings.parse? text with
      | none => pure (.error .settings)
      | some settings => pure (.ok (settings, [Builtin.source, ⟨path, declaredRules path text⟩]))

/-- The names in a list with commas. -/
def ruleNames (list : String) : List String :=
  ((Path.splitPieces (· = ',') list.toList).map fun name => trimBlank (String.ofList name)).filter (!·.isEmpty)

/-- The directory that is scanned. -/
def scanRoot (path : String) (settings : Settings) : String :=
  if Path.same settings.scan.root "." then path else Path.join path settings.scan.root

/-- The files to check, as paths from the root on. -/
def listFiles (fs : FileSystem m) (root : String) (staged respect : Bool) : m (Except String (List String)) := do
  if staged then
    match ← fs.staged root with
    | .ok files => pure (.ok (files.mergeSort fun a b => (Path.compare a b).isLE))
    | .error (.notRun reason) => pure (.error s!"Failed to run git: {reason.message}")
    | .error (.failed reason) => pure (.error s!"git diff --cached failed in {root}: {reason}")
  else
    match ← (Ignore.walk fs root respect).run with
    | .ok files => pure (.ok files)
    | .error e => pure (.error s!"Failed to walk {root}: {e.message}")

/-- Reads a file as text. -/
def readText (fs : FileSystem m) (path : String) : m (Except ReadError (List Char)) := do
  match ← fs.read path with
  | .error e => pure (.error (.system e.message))
  | .ok bytes => pure ((Utf8.decode bytes).mapError .invalidData)

/-- The files as a source for a scanner, with the files that it will look at read. -/
def readSource (fs : FileSystem m) (root : String) (scanner : Scanner) (files : List String) : m FileSource := do
  let unread : FileSource := ⟨files, fun path => .error (.notFound path)⟩
  let mut texts : Std.HashMap String (Except ReadError (List Char)) := {}
  for task in scanner.plan unread do
    texts := texts.insert task.path (← readText fs (Path.join root task.path))
  pure ⟨files, fun path => texts.getD path (.error (.notFound path))⟩

/-- A report in the format that is asked for. -/
def report (format : ReportFormat) (theme : Theme) (r : ScanResult) : String :=
  match format with
  | .text => (Report.ofResult theme r).text
  | .json => r.toJson.print
  | .compact => Report.compact r

/-- The rules that `check` runs, with the events of loading them. -/
def chosenRules (a : CheckArguments) (settings : Settings) (sources : List RuleSource) :
    List Event × Except LoadError Scanner :=
  let (events, loaded) := RuleSet.load sources settings
  (events, do
    let rules ← loaded
    let rules ← match a.rules with
      | none => pure rules
      | some names => rules.only (ruleNames names)
    Scanner.make rules a.exclude settings)

/-- Whether colours are forced where the output is no terminal. -/
def forcesColor (fs : FileSystem m) : m Bool := do
  match ← fs.setting? "CLICOLOR_FORCE" with
  | none => pure false
  | some value => pure (value ≠ "0")

/-- Scans files and reports complaints. -/
def runCheck (fs : FileSystem m) (config : Option String) (a : CheckArguments) : m (Except RunError Output) := do
  match ← loadConfiguration fs a.path config with
  | .error e => pure (.error (.load e))
  | .ok (settings, sources) =>
    let (loadEvents, chosen) := chosenRules a settings sources
    match chosen with
    | .error e => pure (.error (.load e))
    | .ok scanner =>
      let root := scanRoot a.path settings
      match ← listFiles fs root a.staged settings.scan.respectGitignore with
      | .error message => pure (.error (.scan message))
      | .ok files =>
        let source ← readSource fs root scanner files
        let (scanEvents, outcome) := scanner.scan source .never
        match outcome with
        | .error failure => pure (.error (.scan failure.message))
        | .ok result =>
          let theme := Theme.choose a.noColor settings.scan.color (← forcesColor fs)
          pure (.ok {
            status := (ExitStatus.ofResult result).code
            stdout := report a.format theme result ++ "\n"
            events := loadEvents ++ scanEvents })

/-- The row of a rule in the table of rules. -/
def ruleRow (name severity kind description : String) : String :=
  s!"{Report.alignLeft 25 name} {Report.alignLeft 9 severity} {Report.alignLeft 8 kind} {description}"

/-- The table of rules. -/
def ruleTable (rules : RuleSet) : String :=
  let rows := rules.rules.map fun r =>
    ruleRow r.name r.info.severity.label r.finder.kind r.info.description
  let head := ["Registered complainers:", "", ruleRow "Name" "Severity" "Kind" "Description",
    String.ofList (List.replicate 80 '-')]
  let foot := ["", "Use --rules to run only some of them, e.g.:",
    "  renag check --rules debug-print,merge-conflict-marker"]
  String.join ((head ++ rows ++ foot).map (· ++ "\n"))

/-- Lists the rules of the current directory. -/
def runListRules (fs : FileSystem m) (config : Option String) : m (Except RunError Output) := do
  match ← loadConfiguration fs "." config with
  | .error e => pure (.error (.load e))
  | .ok (settings, sources) =>
    let (events, loaded) := RuleSet.load sources settings
    match loaded with
    | .error e => pure (.error (.load e))
    | .ok rules => pure (.ok { status := 0, stdout := ruleTable rules, events })

/-- Writes the starter configuration into the current directory. -/
def runInit (fs : FileSystem m) (force : Bool) : m (Except RunError Output) := do
  let path := Path.join "." "renag.toml"
  if !force && (← fs.pathExists path) then
    return .error (.init s!"Configuration file already exists at {path}. Use --force to overwrite.")
  match ← fs.write path (Utf8.encode starterConfiguration) with
  | .error e => return .error (.init s!"Failed to write {path}: {e.message}")
  | .ok () =>
    let lines := [s!"Created {path}", "", "Next steps:", "  1. Edit renag.toml to add complainers",
      "  2. Run: renag check"]
    return .ok { status := 0, stdout := String.join (lines.map (· ++ "\n")) }

/-- What is said when no command is run. -/
def stopped : ArgumentStop → Output
  | .misuse => { status := 2, stderr := "error: invalid arguments\n\nFor more information, try '--help'.\n" }
  | .help topic => { status := 0, stdout := Help.topic topic ++ "\n" }
  | .version => { status := 0, stdout := Help.version ++ "\n" }

/-- Runs a command line. -/
def run (fs : FileSystem m) (args : List String) : m Output := do
  match Arguments.parse args (← fs.setting? "RENAG_JOBS") with
  | .error stop => pure (stopped stop)
  | .ok invocation =>
    let outcome ← match invocation.command with
      | .check a => runCheck fs invocation.config a
      | .listRules => runListRules fs invocation.config
      | .init force => runInit fs force
    match outcome with
    | .ok output => pure output
    | .error e => pure { status := e.status.code, stderr := e.message ++ "\n" }

end Command

end PatternLint
