import PatternLint.Ignore.User
/-!
# Walking a directory

Lists the files below a directory. Ignore files in a directory speak about all that lies below it; of several that
speak about a path the nearest one counts. Files named `.ignore` come before those named `.gitignore`, then the
excludes of a repository, and last the ignore file of the user. What lies in an ignored directory is not looked at,
and neither is what is named `.git`.
-/
namespace PatternLint.Ignore

/-- The ignore files of one directory. -/
structure Layer where
  /-- The path of the directory. -/
  dir : List Char
  plain : List Rule := []
  git : List Rule := []
  gitExclude : List Rule := []

/-- A path as the rules of a directory see it, which is from the directory on. Paths are compared as they are spelled:
one `./` at the beginning does not count, and a path that is spelled otherwise than the directory is seen whole. -/
def seenFrom (dir path : List Char) : List Char :=
  let dir := Path.dropHere dir
  let path := Path.dropHere path
  if Path.same (String.ofList dir) "." || !path.contains '/' || !dir.isPrefixOf path then path
  else match path.drop dir.length with
    | '/' :: cs => cs
    | cs => cs

/-- What layers say of a path, nearest first, by one of their files. -/
def layersVerdict (choose : Layer → List Rule) (layers : List Layer) (path : List Char) (isDirectory : Bool) : Verdict :=
  match layers with
  | [] => .silent
  | l :: ls =>
    (verdict (choose l) (String.ofList (seenFrom l.dir path)) isDirectory).orElse
      (layersVerdict choose ls path isDirectory)

/-- The ignore rules at a directory. -/
structure Context where
  /-- The directory where the walk began. -/
  start : List Char := []
  /-- The same with all the names on the way to it. -/
  place : List Char := []
  /-- The directories from there on, nearest first. -/
  layers : List Layer := []
  /-- The directories above, nearest first. -/
  above : List Layer := []
  /-- The rules of the user, as those of the current directory. -/
  user : Layer := ⟨[], [], [], []⟩

namespace Context

/-- A path as it is spelled with all the names on the way to it. -/
def placed (c : Context) (path : List Char) : List Char :=
  let below := if Path.same (String.ofList c.start) "." then path else
    let start := Path.dropHere c.start
    let path := if start.isPrefixOf path then path.drop start.length else path
    match path with
    | '/' :: cs => cs
    | cs => cs
  (Path.join (String.ofList c.place) (String.ofList below)).toList

/-- Whether a path is ignored. -/
def ignores (c : Context) (path : String) (isDirectory : Bool) : Bool :=
  let path := Path.dropHere path.toList
  let placed := c.placed path
  let say (choose : Layer → List Rule) : Verdict :=
    (layersVerdict choose c.layers path isDirectory).orElse (layersVerdict choose c.above placed isDirectory)
  let v := (say Layer.plain).orElse ((say Layer.git).orElse ((say Layer.gitExclude).orElse
    (layersVerdict Layer.git [c.user] path isDirectory)))
  v = .ignored

/-- The context within a further directory. -/
def descend (c : Context) (layer : Layer) : Context := { c with layers := layer :: c.layers }

end Context

/-- A directory that cannot be listed. -/
structure WalkError where
  path : String
  reason : FileError

def WalkError.message (e : WalkError) : String := s!"{e.path}: IO error for operation on {e.path}: {e.reason.message}"

variable {m : Type → Type} [Monad m]

/-- Reads the ignore files of a directory. -/
def readLayer (fs : FileSystem m) (dir : String) : m Layer := do
  let rules (name : String) : m (List Rule) := do pure (parse (← fs.readOrEmpty (Path.join dir name)))
  pure ⟨dir.toList, ← rules ".ignore", ← rules ".gitignore", ← rules ".git/info/exclude"⟩

/-- The path that begins at the root and goes by the given names. -/
def fromRoot (names : List String) : String := "/" ++ "/".intercalate names

/-- The layers of the directories above a place, nearest first; its names are given last first. -/
def readAbove (fs : FileSystem m) : (place : List String) → m (List Layer)
  | [] => pure []
  | _ :: above => do
    let layer ← readLayer fs (fromRoot above.reverse)
    pure (layer :: (← readAbove fs above))

/-- The context of a walk that begins at a directory. -/
def readContext (fs : FileSystem m) (start : String) : m Context := do
  let place ← fs.resolve? start
  let above ← readAbove fs (place.getD []).reverse
  let here ← readLayer fs start
  let current := (← fs.resolve? ".").getD []
  pure {
    start := start.toList
    place := (fromRoot (place.getD [])).toList
    layers := [here]
    above
    user := { dir := (fromRoot current).toList, git := ← readUserRules fs } }

/-- Lists the files below a directory that is spelled `dir` and lies `below` the start of the walk, down to so many
levels. -/
def walkFrom (fs : FileSystem m) (respect : Bool) : (levels : Nat) → (dir : String) → (below : List String) →
    Context → ExceptT WalkError m (List (List String))
  | 0, _, _, _ => pure []
  | levels + 1, dir, below, context => do
    let names ← ExceptT.mk do pure ((← fs.list dir).mapError (WalkError.mk dir))
    let found ← names.mapM fun (name, kind) => do
      let path := Path.join dir name
      if name = ".git" || (respect && context.ignores path (kind = .directory)) then pure []
      else match kind with
        | .file => pure [below ++ [name]]
        | .special => pure []
        | .directory => do
          let context ← if respect then ExceptT.lift (do pure (context.descend (← readLayer fs path)))
            else pure context
          walkFrom fs respect levels path (below ++ [name]) context
    pure found.flatten

/-- The most levels of directories that are walked. -/
def maxLevels : Nat := 4096

/-- The files below a root, as paths from there on in the order of components. A root that is a file is listed under
the empty path, and the root named `-` has no files. -/
def walk (fs : FileSystem m) (root : String) (respect : Bool) : ExceptT WalkError m (List String) := do
  if Path.components root = [.name "-"] then return []
  match ← ExceptT.lift (fs.kind root) with
  | .error reason => throw ⟨root, reason⟩
  | .ok .file => pure [""]
  | .ok .special => pure []
  | .ok .directory =>
    let context ← if respect then ExceptT.lift (readContext fs root) else pure {}
    let found ← walkFrom fs respect maxLevels root [] context
    pure ((found.map "/".intercalate).mergeSort fun a b => (Path.compare a b).isLE)

end PatternLint.Ignore
