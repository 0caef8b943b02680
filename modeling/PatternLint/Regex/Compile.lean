import PatternLint.Regex.Automaton.Size
import PatternLint.Regex.Parser
import PatternLint.Regex.Search
/-!
# From pattern to program

A pattern is refused if it cannot be read or if its automata would take too much memory.
-/
namespace PatternLint.Regex

/-- The program of a pattern read under the given flags. -/
def compile (f : Flags) (pattern : String) : Except Fault Program := do
  let r ← parse f pattern.toList
  if r.fits then pure r.program else .error .tooBig

end PatternLint.Regex
