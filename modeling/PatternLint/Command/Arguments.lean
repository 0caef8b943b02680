/-!
# Command line arguments

The words of a command line are read from left to right. The first word that is no option names the command, and
what follows belongs to it. Options have a long name, some a short one as well; short ones may be joined, and a value
may stand in the same word as its option. Options that hold for every command may stand before or after its name.
-/
namespace PatternLint

/-- How a report is written. -/
inductive ReportFormat where
  | text
  | json
  | compact
deriving DecidableEq, Repr

def ReportFormat.ofName? : String → Option ReportFormat
  | "text" => some text
  | "json" => some json
  | "compact" => some compact
  | _ => none

/-- What to check and how to report it. -/
structure CheckArguments where
  path : String := "."
  staged : Bool := false
  rules : Option String := none
  exclude : List String := []
  jobs : Option Nat := none
  format : ReportFormat := .text
  noColor : Bool := false
deriving DecidableEq, Repr

inductive Command where
  | check (arguments : CheckArguments)
  | listRules
  | init (force : Bool)
deriving DecidableEq, Repr

/-- A command line that was understood. -/
structure Invocation where
  verbose : Bool
  config : Option String
  command : Command
deriving DecidableEq, Repr

/-- Why no command is run. -/
inductive ArgumentStop where
  /-- The arguments make no sense. -/
  | misuse
  /-- Help was asked for, on the program or on one command. -/
  | help (topic : Option String)
  | version
deriving DecidableEq, Repr

namespace Arguments

/-- An option: its names, the values it takes if it takes any, and whether it may stand more than once. -/
structure OptionSpec where
  long : String
  short : Option Char := none
  value : Option (String → Bool) := none
  repeatable : Bool := false

/-- What a command takes: options, and words that are no options. -/
structure Spec where
  options : List OptionSpec
  maxWords : Nat := 0
  /-- The name of the command; the program itself has none. -/
  topic : Option String := none

/-- A number of 64 bits in decimal digits; a plus may stand before it. -/
def number? (s : String) : Option Nat :=
  let digits := match s.toList with
    | '+' :: cs => cs
    | cs => cs
  if digits.isEmpty || !digits.all Char.isDigit then none
  else
    let n := digits.foldl (fun n c => n * 10 + (c.toNat - '0'.toNat)) 0
    if n < UInt64.size then some n else none

def nonempty (s : String) : Bool := !s.isEmpty

def globalOptions : List OptionSpec :=
  [⟨"verbose", some 'v', none, false⟩, ⟨"config", some 'c', some nonempty, false⟩]

def programSpec : Spec := ⟨globalOptions, 0, none⟩

def checkSpec : Spec where
  options := globalOptions ++
    [⟨"staged", none, none, false⟩, ⟨"rules", none, some fun _ => true, false⟩,
      ⟨"exclude", some 'e', some fun _ => true, true⟩,
      ⟨"jobs", some 'j', some fun s => (number? s).isSome, false⟩,
      ⟨"format", some 'f', some fun s => (ReportFormat.ofName? s).isSome, false⟩,
      ⟨"no-color", none, none, false⟩]
  maxWords := 1
  topic := some "check"

def listRulesSpec : Spec := ⟨globalOptions, 0, some "list-rules"⟩

def initSpec : Spec := ⟨globalOptions ++ [⟨"force", none, none, false⟩], 0, some "init"⟩

/-- What was read of the arguments: options with their values and words, both last first. -/
structure Reading where
  options : List (String × String) := []
  words : List String := []

namespace Reading

/-- Takes an option in with its value; an option without values has the empty one. -/
def addOption (r : Reading) (o : OptionSpec) (value : String) : Except ArgumentStop Reading :=
  if (!o.repeatable && (r.options.lookup o.long).isSome) || (o.value.elim false fun ok => !ok value) then
    .error .misuse
  else .ok { r with options := (o.long, value) :: r.options }

/-- Takes a word in. -/
def addWord (r : Reading) (s : Spec) (word : String) : Except ArgumentStop Reading :=
  if s.maxWords ≤ r.words.length || word.isEmpty then .error .misuse else .ok { r with words := word :: r.words }

def isSet (r : Reading) (name : String) : Bool := (r.options.lookup name).isSome

end Reading

/-- Takes a long option in; the answer is the option that still waits for its value. -/
def readLong (s : Spec) (r : Reading) (arg : List Char) : Except ArgumentStop (Reading × Option OptionSpec) :=
  let name := String.ofList (arg.takeWhile (· ≠ '='))
  let value? := match arg.dropWhile (· ≠ '=') with
    | [] => none
    | _ :: cs => some (String.ofList cs)
  match s.options.find? (·.long = name), value? with
  | some o, some v => if o.value.isSome then (r.addOption o v).map (·, none) else .error .misuse
  | some o, none => if o.value.isSome then .ok (r, some o) else (r.addOption o "").map (·, none)
  | none, some _ => .error .misuse
  | none, none =>
    if name = "help" then .error (.help s.topic)
    else if name = "version" && s.topic.isNone then .error .version
    else .error .misuse

/-- Takes joined short options in. -/
def readShort (s : Spec) (r : Reading) : List Char → Except ArgumentStop (Reading × Option OptionSpec)
  | [] => .ok (r, none)
  | c :: cs =>
    match s.options.find? (·.short = some c) with
    | some o =>
      if o.value.isNone then do readShort s (← r.addOption o "") cs
      else match cs with
        | [] => .ok (r, some o)
        | '=' :: cs => (r.addOption o (String.ofList cs)).map (·, none)
        | cs => (r.addOption o (String.ofList cs)).map (·, none)
    | none =>
      if c = 'h' then .error (.help s.topic)
      else if c = 'V' && s.topic.isNone then .error .version
      else .error .misuse

/-- Whether an argument looks like an option. -/
def isOption (arg : String) : Bool := arg.startsWith "-" && arg ≠ "-"

/-- Reads arguments. Where a command is expected, the first word ends the reading and is given back with what follows.
`waiting` is the option whose value comes next. -/
def readAll (s : Spec) (expectCommand : Bool) (r : Reading) (waiting : Option OptionSpec) :
    List String → Except ArgumentStop (Reading × List String)
  | [] => if waiting.isSome then .error .misuse else .ok (r, [])
  | arg :: args =>
    match waiting with
    | some o => if isOption arg then .error .misuse else do readAll s expectCommand (← r.addOption o arg) none args
    | none =>
      if arg = "--" then do pure (← args.foldlM (fun r word => r.addWord s word) r, [])
      else if arg.startsWith "--" then do
        let (r, waiting) ← readLong s r (arg.toList.drop 2)
        readAll s expectCommand r waiting args
      else if isOption arg then do
        let (r, waiting) ← readShort s r (arg.toList.drop 1)
        readAll s expectCommand r waiting args
      else if expectCommand then .ok (r, arg :: args)
      else do readAll s expectCommand (← r.addWord s arg) none args

/-- The arguments of `check`; `jobs` is the number of workers that the environment sets. -/
def checkArguments (r : Reading) (jobs : Option String) : Except ArgumentStop CheckArguments := do
  let jobs ← match r.options.lookup "jobs" <|> jobs with
    | none => pure none
    | some text =>
      match number? text with
      | some n => pure (some n)
      | none => throw .misuse
  pure {
    path := r.words.headD "."
    staged := r.isSet "staged"
    rules := r.options.lookup "rules"
    exclude := (r.options.reverse.filter (·.1 = "exclude")).map (·.2)
    jobs
    format := ((r.options.lookup "format").bind ReportFormat.ofName?).getD .text
    noColor := r.isSet "no-color" }

/-- The topic that help is asked for on. -/
def helpTopic : List String → Except ArgumentStop (Option String)
  | [] => .ok none
  | [topic] => if ["check", "list-rules", "init", "help"].contains topic then .ok (some topic) else .error .misuse
  | _ => .error .misuse

/-- Reads a command line. -/
def parse (args : List String) (jobs : Option String) : Except ArgumentStop Invocation := do
  let (before, rest) ← readAll programSpec true {} none args
  let invoke (after : Reading) (command : Command) : Invocation :=
    { verbose := before.isSet "verbose" || after.isSet "verbose"
      config := after.options.lookup "config" <|> before.options.lookup "config"
      command }
  match rest with
  | "check" :: args =>
    let (after, _) ← readAll checkSpec false {} none args
    pure (invoke after (.check (← checkArguments after jobs)))
  | "list-rules" :: args =>
    let (after, _) ← readAll listRulesSpec false {} none args
    pure (invoke after .listRules)
  | "init" :: args =>
    let (after, _) ← readAll initSpec false {} none args
    pure (invoke after (.init (after.isSet "force")))
  | "help" :: args => throw (.help (← helpTopic args))
  | _ => throw .misuse

end Arguments

end PatternLint
