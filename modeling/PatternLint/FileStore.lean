import PatternLint.Path.Basic
import PatternLint.Text.Utf8
/-!
# Files in memory

Files under their paths, in the order of path components. Two spellings of one path are one file: the first
spelling is kept, and the content of the last write.
-/
namespace PatternLint

/-- Why a file cannot be read. -/
inductive ReadError where
  | notFound (path : String)
  | invalidData (e : Utf8Error)
  /-- Any other reason, as the system words it. -/
  | system (reason : String)
deriving DecidableEq, Repr

def ReadError.message : ReadError → String
  | notFound path => path
  | invalidData e => e.message
  | system reason => reason

/-- Files with their contents, in increasing order of path components. -/
structure FileStore where
  entries : List (String × List UInt8) := []
deriving DecidableEq, Repr

namespace FileStore

/-- Puts a content under a path, into the place of the path or where the order asks for it. -/
def put (path : String) (content : List UInt8) : List (String × List UInt8) → List (String × List UInt8)
  | [] => [(path, content)]
  | (p, old) :: entries =>
    match Path.compare path p with
    | .lt => (path, content) :: (p, old) :: entries
    | .eq => (p, content) :: entries
    | .gt => (p, old) :: put path content entries

/-- Writes a file. -/
def insert (s : FileStore) (path : String) (content : List UInt8) : FileStore := ⟨put path content s.entries⟩

/-- The paths of all files. -/
def candidates (s : FileStore) : List String := s.entries.map (·.1)

/-- The content under a path. -/
def get? (s : FileStore) (path : String) : Option (List UInt8) :=
  (s.entries.find? fun e => Path.same e.1 path).map (·.2)

/-- Reads a file as text. -/
def read (s : FileStore) (path : String) : Except ReadError (List Char) :=
  match s.get? path with
  | none => .error (.notFound path)
  | some bytes => (Utf8.decode bytes).mapError .invalidData

end FileStore

end PatternLint
