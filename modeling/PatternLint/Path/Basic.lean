/-!
# Paths

A path is kept as it was spelled. It has two readings. Its components decide whether two spellings name the same
file: repeated slashes, inner dots and slashes at the end do not count, a dot at the beginning does. Its slashed
text, with backslashes turned into slashes and one leading `./` dropped, decides which globs match it and where it
stands in a report.
-/
namespace PatternLint

/-- One step of a path. -/
inductive Component where
  | root
  | here
  | parent
  | name (s : String)
deriving DecidableEq, Repr

namespace Component

/-- The order of the kinds of components. -/
def rank : Component → Nat
  | root => 0
  | here => 1
  | parent => 2
  | name _ => 3

/-- Components are ordered by kind, and names by their text. -/
def compare : Component → Component → Ordering
  | name s, name t => Ord.compare s t
  | a, b => Ord.compare a.rank b.rank

end Component

namespace Path

/-- The pieces of a list between the places where `p` holds; there is always at least one. -/
def splitPieces (p : Char → Bool) (cs : List Char) : List (List Char) := go [] cs
where
  go (piece : List Char) : List Char → List (List Char)
    | [] => [piece.reverse]
    | c :: cs => if p c then piece.reverse :: go [] cs else go (c :: piece) cs

/-- The component of a piece between two slashes; an empty piece or a dot has none. -/
def pieceComponent? : List Char → Option Component
  | [] | ['.'] => none
  | ['.', '.'] => some .parent
  | piece => some (.name (String.ofList piece))

/-- The components of a path. -/
def components (path : String) : List Component :=
  let pieces := splitPieces (· = '/') path.toList
  let inner := pieces.filterMap pieceComponent?
  match pieces with
  | [] :: _ :: _ => .root :: inner
  | ['.'] :: _ => .here :: inner
  | _ => inner

/-- The order of two lists of components. -/
def compareComponents : List Component → List Component → Ordering
  | [], [] => .eq
  | [], _ :: _ => .lt
  | _ :: _, [] => .gt
  | a :: as, b :: bs => (a.compare b).then (compareComponents as bs)

/-- The order of paths by components. -/
def compare (a b : String) : Ordering := compareComponents (components a) (components b)

/-- Whether two spellings name the same file. -/
def same (a b : String) : Bool := components a == components b

/-- Drops one leading `./`. -/
def dropHere : List Char → List Char
  | '.' :: '/' :: cs => cs
  | cs => cs

/-- The path with slashes only and without a leading `./`. -/
def slashed (path : String) : String :=
  String.ofList (dropHere (path.toList.map fun c => if c = '\\' then '/' else c))

/-- A path below a directory; one that begins with a slash stands for itself. -/
def join (dir path : String) : String :=
  if path.startsWith "/" || dir.isEmpty then path
  else if dir.endsWith "/" then dir ++ path
  else dir ++ "/" ++ path

end Path

end PatternLint
