/-!
# File systems

What the program asks of a file system, in any monad. Paths are given as they are spelled and start from the current
directory.
-/
namespace PatternLint

/-- Why a path cannot be used. -/
inductive FileError where
  | notFound
  | notDirectory
  | isDirectory
  /-- Any other reason, as the system words it. -/
  | other (reason : String)
deriving DecidableEq, Repr

def FileError.message : FileError → String
  | notFound => "No such file or directory (os error 2)"
  | notDirectory => "Not a directory (os error 20)"
  | isDirectory => "Is a directory (os error 21)"
  | other reason => reason

/-- What a path names. -/
inductive FileKind where
  | file
  | directory
  /-- A link, a device or the like. -/
  | special
deriving DecidableEq, Repr

/-- Why the staged files cannot be listed. -/
inductive StageError where
  /-- The version control program cannot be run. -/
  | notRun (reason : FileError)
  /-- It was run and failed. -/
  | failed (reason : String)
deriving DecidableEq, Repr

structure FileSystem (m : Type → Type) where
  /-- What a path names, links followed. -/
  kind : String → m (Except FileError FileKind)
  read : String → m (Except FileError (List UInt8))
  write : String → List UInt8 → m (Except FileError Unit)
  /-- The names in a directory with what they name, links not followed. -/
  list : String → m (Except FileError (List (String × FileKind)))
  /-- The names on the way from the root to a path. -/
  resolve? : String → m (Option (List String))
  /-- The files below a directory that are staged for the next commit, as paths from there on. -/
  staged : String → m (Except StageError (List String))
  setting? : String → m (Option String)

namespace FileSystem

variable {m : Type → Type} [Monad m]

/-- Whether a path names a file. -/
def isFile (fs : FileSystem m) (path : String) : m Bool := do
  match ← fs.kind path with
  | .ok .file => pure true
  | _ => pure false

/-- Whether a path names anything. -/
def pathExists (fs : FileSystem m) (path : String) : m Bool := do
  match ← fs.kind path with
  | .ok _ => pure true
  | .error _ => pure false

/-- The content of a file, or nothing if it cannot be read. -/
def readOrEmpty (fs : FileSystem m) (path : String) : m (List UInt8) := do
  match ← fs.read path with
  | .ok bytes => pure bytes
  | .error _ => pure []

end FileSystem

end PatternLint
