import PatternLint.CharSet.Class
/-!
# Assertions

A condition on a place in a text that consumes nothing. It sees one character to the left and one to the
right, and nothing else.
-/
namespace PatternLint.Regex

/-- Which side of a word an assertion asks for. -/
inductive WordEdge where
  /-- A word begins or ends here. -/
  | boundary
  /-- No word begins or ends here. -/
  | noBoundary
  | start
  | stop
  /-- No word character stands to the left. -/
  | startHalf
  /-- No word character stands to the right. -/
  | stopHalf
deriving DecidableEq, Repr

/-- A condition on a place between two characters. -/
inductive Assertion where
  | textStart
  | textEnd
  /-- After a line end; with `crlf` a carriage return ends a line too, and the pair ends one line. -/
  | lineStart (crlf : Bool)
  | lineEnd (crlf : Bool)
  /-- At the edge of a word, with the word characters of every script or of the first 128 alone. -/
  | word (edge : WordEdge) (ascii : Bool)
deriving DecidableEq, Repr

namespace WordEdge

/-- Whether the edge lies between a character that is of a word or not and one that is or not. -/
def holds : WordEdge → (left right : Bool) → Bool
  | boundary, l, r => l != r
  | noBoundary, l, r => l == r
  | start, l, r => !l && r
  | stop, l, r => l && !r
  | startHalf, l, _ => !l
  | stopHalf, _, r => !r

end WordEdge

namespace Assertion

/-- Whether a neighbouring character is a word character. -/
def isWord (ascii : Bool) : Option Char → Bool
  | none => false
  | some c => (if ascii then CharSet.asciiWord else CharSet.word).contains c

/-- Whether the assertion holds between `before` and `after`, which are `none` at the ends of the text. -/
def holds (a : Assertion) (before after : Option Char) : Bool :=
  match a with
  | textStart => before.isNone
  | textEnd => after.isNone
  | lineStart false => before.isNone || before == some '\n'
  | lineStart true => before.isNone || before == some '\n' || (before == some '\r' && after != some '\n')
  | lineEnd false => after.isNone || after == some '\n'
  | lineEnd true => after.isNone || after == some '\r' || (after == some '\n' && before != some '\r')
  | word edge ascii => edge.holds (isWord ascii before) (isWord ascii after)

end Assertion

end PatternLint.Regex
