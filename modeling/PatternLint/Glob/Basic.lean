import PatternLint.Glob.Pattern
import PatternLint.Path.Basic
/-!
# Globs

A glob without a slash matches a file by its name, at any depth. One with a slash is matched against the whole
path. A glob that ends in `/**` also covers all that lies below the directory before it, whatever that is called.
-/
namespace PatternLint

/-- Why a glob is refused. -/
inductive GlobError where
  | empty
  | invalid (pattern : String) (fault : Glob.Fault)
deriving DecidableEq, Repr

def GlobError.message : GlobError → String
  | empty => "glob pattern is empty"
  | invalid pattern fault => s!"invalid glob `{pattern}`: {fault.message}"

/-- A valid glob: its text as written and without a leading `./`, and its units. -/
structure Glob where
  raw : String
  text : List Char
  tokens : List Glob.Token
deriving DecidableEq, Repr

namespace Glob

/-- Reads a glob. -/
def parse (pattern : String) : Except GlobError Glob :=
  if pattern.isEmpty then .error .empty
  else
    let text := Path.dropHere pattern.toList
    match Glob.read text with
    | .ok tokens => .ok ⟨pattern, text, tokens⟩
    | .error fault => .error (.invalid pattern fault)

/-- Reads several globs; the first that is refused decides. -/
def parseAll (patterns : List String) : Except GlobError (List Glob) := patterns.mapM parse

/-- Whether the glob looks at file names alone. -/
def byName (g : Glob) : Bool := !g.text.contains '/'

/-- The last piece of a slashed path. -/
def fileName (path : List Char) : List Char := (path.reverse.takeWhile (· ≠ '/')).reverse

/-- The directory before a final `/**`, without slashes at its end. -/
def subtree? (g : Glob) : Option (List Char) :=
  match g.text.reverse with
  | '*' :: '*' :: '/' :: dir => some (dir.dropWhile (· = '/')).reverse
  | _ => none

/-- Whether a slashed path lies below a directory. -/
def below (dir path : List Char) : Bool := (dir ++ ['/']).isPrefixOf path

/-- Whether the glob matches a path. -/
def accepts (g : Glob) (path : String) : Bool :=
  let path := (Path.slashed path).toList
  if g.byName then matchTokens g.tokens (fileName path) = .matched
  else matchTokens g.tokens path = .matched || g.subtree?.any (below · path)

end Glob

end PatternLint
