import PatternLint.Command.Run
/-!
# The program

Runs a command line on the files of the machine. All that is decided is decided by `Command.run`.
-/
namespace PatternLint.Machine

/-- An error of the machine as a reason why a path cannot be used. -/
def reason : IO.Error → FileError
  | .noFileOrDirectory .. | .noSuchThing .. => .notFound
  | .inappropriateType _ code details =>
    if code = 20 then .notDirectory else if code = 21 then .isDirectory else .other details
  | e => .other (toString e)

/-- Runs an action and keeps its error. -/
def guarded {α : Type} (action : IO α) : IO (Except FileError α) := do
  pure ((← action.toBaseIO).mapError reason)

/-- A path from the current directory on. -/
def located (path : String) :=
  (· / path) <$> IO.currentDir

def kindOf : IO.FS.FileType → FileKind
  | .file => .file
  | .dir => .directory
  | _ => .special

def kind (path : String) : IO (Except FileError FileKind) := do
  if path.isEmpty then return .error .notFound
  guarded do pure (kindOf (← (← located path).metadata).type)

def list (path : String) : IO (Except FileError (List (String × FileKind))) :=
  guarded do
    let entries ← (← located path).readDir
    entries.toList.mapM fun entry => do pure (entry.fileName, kindOf (← entry.path.symlinkMetadata).type)

/-- The files of the machine. Staged files cannot be listed, since no other program is run. -/
def files : FileSystem IO where
  kind := kind
  read path := guarded do pure (← IO.FS.readBinFile (← located path)).toList
  write path content := guarded do IO.FS.writeBinFile (← located path) ⟨content.toArray⟩
  list := list
  resolve? path := do
    match ← (IO.FS.realPath path).toBaseIO with
    | .ok place => pure (some (place.components.filter (!·.isEmpty)))
    | .error _ => pure none
  staged _ := pure (.error (.notRun (.other "no version control program is run")))
  setting? := (IO.getEnv ·)

end PatternLint.Machine

/-- Runs the command line and tells what happened besides on the error output. -/
def main (args : List String) : IO UInt32 := do
  let output ← PatternLint.Command.run PatternLint.Machine.files args
  for event in output.events do
    IO.eprintln event.line
  IO.print output.stdout
  IO.eprint output.stderr
  pure output.status.toUInt32
