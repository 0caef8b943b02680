import PatternLint.Glob.Basic
/-!
# Choosing files

The files of a rule are those that match one of its include globs and none of its exclude globs, in the order of
their slashed text and each text once.
-/
namespace PatternLint

/-- The globs that choose the files of a rule. -/
structure FileFilter where
  included : List Glob
  excluded : List Glob
deriving DecidableEq, Repr

namespace FileFilter

/-- Reads the globs of a filter, those to include first. -/
def parse (included excluded : List String) : Except GlobError FileFilter := do
  pure ⟨← Glob.parseAll included, ← Glob.parseAll excluded⟩

/-- Whether a path is chosen. -/
def accepts (f : FileFilter) (path : String) : Bool :=
  f.included.any (·.accepts path) && !f.excluded.any (·.accepts path)

/-- Of neighbours with the same slashed text keeps the first, after `last` was kept. -/
def dropRepeatsAfter (last : String) : List String → List String
  | [] => []
  | a :: paths =>
    if Path.slashed last = Path.slashed a then dropRepeatsAfter last paths else a :: dropRepeatsAfter a paths

/-- Of neighbours with the same slashed text keeps the first. -/
def dropRepeats : List String → List String
  | [] => []
  | a :: paths => a :: dropRepeatsAfter a paths

/-- The chosen paths among the candidates. -/
def select (f : FileFilter) (candidates : List String) : List String :=
  dropRepeats ((candidates.filter f.accepts).mergeSort fun a b => decide (Path.slashed a ≤ Path.slashed b))

end FileFilter

end PatternLint
