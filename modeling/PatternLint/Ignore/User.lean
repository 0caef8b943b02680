import PatternLint.Files.Basic
import PatternLint.Ignore.Rules
import PatternLint.Path.Basic
/-!
# The user's ignore file

A git configuration may name the user's ignore file by a setting on lines of its own. The setting is looked for without
regard to sections, and the first one that can be read counts. Without one, the file has a fixed name in the user's
configuration directory.
-/
namespace PatternLint.Ignore

/-- Whether a byte is blank. -/
def isBlankByte (b : UInt8) : Bool := (9 ≤ b && b ≤ 13) || b == 32

/-- The places where a line begins, each as what follows it. -/
def lineStarts (bytes : List UInt8) : List (List UInt8) := bytes :: go bytes
where
  go : List UInt8 → List (List UInt8)
    | [] => []
    | b :: bs => if b = 10 then bs :: go bs else go bs

/-- What follows a word, if the bytes begin with it in any case; the word is in lower case. -/
def afterWord? (word bytes : List UInt8) : Option (List UInt8) :=
  let lower (b : UInt8) : UInt8 := if 65 ≤ b && b ≤ 90 then b + 32 else b
  if (bytes.take word.length).map lower = word then some (bytes.drop word.length) else none

/-- Whether only blanks stand between here and the end of a line; they may go on to later lines. -/
def endsLine (bytes : List UInt8) : Bool :=
  (bytes.takeWhile isBlankByte).contains 10 || (bytes.dropWhile isBlankByte).isEmpty

/-- Whether a value may end here: the rest of the line is blank but for one quote. -/
def endsValue (bytes : List UInt8) : Bool :=
  endsLine bytes ||
    match bytes.dropWhile isBlankByte with
    | 34 :: rest => endsLine rest
    | _ => false

/-- The shortest value without blanks at the beginning of the bytes; `value` was read of it, last byte first. -/
def settingValue? (value : List UInt8) : List UInt8 → Option (List UInt8)
  | [] => none
  | b :: bs =>
    if isBlankByte b then none
    else if endsValue bs then some (b :: value).reverse
    else settingValue? (b :: value) bs

/-- The value of the setting, if the bytes begin with it. A quote before the value is passed over, unless nothing else
is left for the value. -/
def setting? (bytes : List UInt8) : Option (List UInt8) := do
  let rest ← afterWord? "excludesfile".toUTF8.toList (bytes.dropWhile isBlankByte)
  let rest ← afterWord? [61] (rest.dropWhile isBlankByte)
  let rest := rest.dropWhile isBlankByte
  let quoted := match rest with
    | 34 :: inner => settingValue? [] (inner.dropWhile isBlankByte)
    | _ => none
  quoted <|> settingValue? [] rest

/-- The path of the user's ignore file that a git configuration sets; a tilde stands for the home directory. -/
def excludesFile? (home : Option String) (config : List UInt8) : Option String := do
  let text ← (Utf8.decode (← (lineStarts config).findSome? setting?)).toOption
  match home with
  | none => some (String.ofList text)
  | some home => some (String.ofList (text.flatMap fun c => if c = '~' then home.toList else [c]))

variable {m : Type → Type} [Monad m]

/-- The first of several configurations to set the user's ignore file. -/
def firstSet (fs : FileSystem m) (home : Option String) : List (Option String) → m (Option String)
  | [] => pure none
  | none :: configs => firstSet fs home configs
  | some config :: configs => do
    match excludesFile? home (← fs.readOrEmpty config) with
    | some path => pure (some path)
    | none => firstSet fs home configs

/-- The rules of the user's ignore file. -/
def readUserRules (fs : FileSystem m) : m (List Rule) := do
  let home ← fs.setting? "HOME"
  let chosen ← fs.setting? "XDG_CONFIG_HOME"
  let configDir := match chosen with
    | some dir => if dir.isEmpty then home.map (Path.join · ".config") else some dir
    | none => home.map (Path.join · ".config")
  let configs := [← fs.setting? "GIT_CONFIG_GLOBAL", home.map (Path.join · ".gitconfig"),
    configDir.map (Path.join · "git/config"), ← fs.setting? "GIT_CONFIG_SYSTEM"]
  match (← firstSet fs home configs) <|> configDir.map (Path.join · "git/ignore") with
  | none => pure []
  | some path => pure (parse (← fs.readOrEmpty path))

end PatternLint.Ignore
