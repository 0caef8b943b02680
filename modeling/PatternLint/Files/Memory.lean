import PatternLint.Files.Basic
import PatternLint.Path.Basic
/-!
# A file system in memory

Files and directories under the names on the way to them. A directory is there if it was made or if something lies
below it.
-/
namespace PatternLint

structure MemoryFiles where
  /-- The names on the way to the current directory. -/
  current : List String
  files : List (List String × List UInt8) := []
  directories : List (List String) := []
  environment : List (String × String) := []
  /-- The staged files, if the current directory is under version control. -/
  staged : Option (List (List String)) := none

namespace MemoryFiles

/-- What lies at a place. -/
def kindAt? (w : MemoryFiles) (place : List String) : Option FileKind :=
  if w.files.any (·.1 = place) then some .file
  else if (w.current :: w.directories ++ w.files.map (·.1)).any place.isPrefixOf then some .directory
  else none

/-- Goes one step from a place, which has to be a directory. -/
def step (w : MemoryFiles) (place : List String) (piece : List Char) : Except FileError (List String) :=
  if w.kindAt? place = some .file then .error .notDirectory
  else match piece with
    | [] | ['.'] => .ok place
    | ['.', '.'] => .ok place.dropLast
    | name =>
      let next := place ++ [String.ofList name]
      if (w.kindAt? next).isSome then .ok next else .error .notFound

/-- The place that a path names. -/
def locate (w : MemoryFiles) (path : String) : Except FileError (List String) :=
  if path.isEmpty then .error .notFound
  else (Path.splitPieces (· = '/') path.toList).foldlM w.step (if path.startsWith "/" then [] else w.current)

/-- The place that a path will name once it is made, if it is not there yet. -/
def target (w : MemoryFiles) (path : String) : Except FileError (List String) :=
  match w.locate path with
  | .ok place => .ok place
  | .error _ =>
    let pieces := (Path.splitPieces (· = '/') path.toList).reverse
    let parent := "/".intercalate ((pieces.drop 1).reverse.map String.ofList)
    let dir := if parent.isEmpty then w.locate (if path.startsWith "/" then "/" else ".") else w.locate parent
    dir.map (· ++ [String.ofList (pieces.headD [])])

def kind (w : MemoryFiles) (path : String) : Except FileError FileKind := do
  let place ← w.locate path
  match w.kindAt? place with
  | some k => pure k
  | none => throw .notFound

def read (w : MemoryFiles) (path : String) : Except FileError (List UInt8) := do
  let place ← w.locate path
  match w.files.lookup place with
  | some bytes => pure bytes
  | none => throw .isDirectory

/-- Puts a content at a place. -/
def put (w : MemoryFiles) (place : List String) (content : List UInt8) : MemoryFiles :=
  { w with files := w.files.filter (·.1 ≠ place) ++ [(place, content)] }

def write (w : MemoryFiles) (path : String) (content : List UInt8) : Except FileError MemoryFiles := do
  let place ← w.target path
  if w.kindAt? place = some .directory then throw .isDirectory
  pure (w.put place content)

/-- The name below a directory on the way to a place. -/
def nameBelow? (dir place : List String) : Option String :=
  if dir.isPrefixOf place then (place.drop dir.length).head? else none

def list (w : MemoryFiles) (path : String) : Except FileError (List (String × FileKind)) := do
  let dir ← w.locate path
  if w.kindAt? dir = some .file then throw .notDirectory
  let places := w.current :: w.directories ++ w.files.map (·.1)
  let names := (places.filterMap (nameBelow? dir)).eraseDups
  pure (names.filterMap fun name => (w.kindAt? (dir ++ [name])).map (name, ·))

/-- Puts the current directory under version control and stages files there, or all files of a directory. -/
def stage (w : MemoryFiles) (places : List (List String)) : MemoryFiles :=
  let files := (w.files.map (·.1)).filter fun file =>
    places.any (·.isPrefixOf file) && !(file.drop w.current.length).contains ".git"
  { w with staged := some files }

def listStaged (w : MemoryFiles) (path : String) : Except StageError (List String) := do
  let dir ← (w.locate path).mapError .notRun
  if w.kindAt? dir = some .file then throw (.notRun .notDirectory)
  match w.staged with
  | some files =>
    if w.current.isPrefixOf dir then
      pure ((files.filter dir.isPrefixOf).map fun file => "/".intercalate (file.drop dir.length))
    else throw (.failed "not a git repository")
  | none => throw (.failed "not a git repository")

/-- The files as a file system whose state is the files. -/
def system : FileSystem (StateM MemoryFiles) where
  kind path := do pure ((← get).kind path)
  read path := do pure ((← get).read path)
  write path content := do
    match (← get).write path content with
    | .ok w => set w; pure (.ok ())
    | .error e => pure (.error e)
  list path := do pure ((← get).list path)
  resolve? path := do pure ((← get).locate path).toOption
  staged path := do pure ((← get).listStaged path)
  setting? name := do pure ((← get).environment.lookup name)

end MemoryFiles

end PatternLint
