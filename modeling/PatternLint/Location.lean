import PatternLint.Span
/-!
# Lines, columns and carets

A span of bytes is shown as lines with a row of carets. Lines end at newlines and are numbered from one; a carriage
return before the newline is not shown. A newline at the end of a span belongs to the line that it ends. A span
within one line is underlined; of a longer one only the first and the last line are shown.
-/
namespace PatternLint

/-- A numbered line without its end. -/
structure SourceLine where
  number : Nat
  text : String
deriving DecidableEq, Repr

/-- Where a span lies, in lines and characters. -/
structure Location where
  firstLine : Nat
  lastLine : Nat
  column : Nat
  lines : List SourceLine
  caret : Option String
deriving DecidableEq, Repr

namespace Location

def isMultiline (l : Location) : Bool := l.firstLine < l.lastLine

/-- The text of the first line shown. -/
def firstLineText (l : Location) : String := (l.lines.head?.map (·.text)).getD ""

end Location

/-- What a text has after its last newline. -/
def lastPiece (text : List Char) : List Char := (text.reverse.takeWhile (· ≠ '\n')).reverse

/-- What a text has before its first newline. -/
def firstPiece (text : List Char) : List Char := text.takeWhile (· ≠ '\n')

/-- A text without the given character at its end, if it ends in one. -/
def dropLastIf (c : Char) (text : List Char) : List Char := if text.getLast? = some c then text.dropLast else text

/-- A line as shown. -/
def shownLine (line : List Char) : String := String.ofList (dropLastIf '\r' line)

/-- The blanks that bring a caret below the end of `pre`: tabs stay tabs. -/
def caretIndent (pre : List Char) : List Char := pre.map fun c => if c = '\t' then '\t' else ' '

/-- How many carets stand below a covered text: one for each character up to the carriage returns at its end, and
one at least. -/
def caretWidth (covered : List Char) : Nat := max (covered.reverse.dropWhile (· = '\r')).length 1

/-- The location of a span. Its ends are moved back to the next character boundary in the text, and an end before
the start is moved to it. -/
def resolve (text : List Char) (span : Span) : Location :=
  let (before, rest) := splitBytes span.start text
  let covered := dropLastIf '\n' (splitBytes (span.stop - byteLength before) rest).1
  let firstLine := before.count '\n' + 1
  let lastLine := firstLine + covered.count '\n'
  let pre := lastPiece before
  let column := pre.length + 1
  let first : SourceLine := ⟨firstLine, shownLine (pre ++ firstPiece rest)⟩
  if lastLine = firstLine then
    let caret := caretIndent pre ++ List.replicate (caretWidth covered) '^'
    ⟨firstLine, lastLine, column, [first], some (String.ofList caret)⟩
  else
    let last : SourceLine := ⟨lastLine, shownLine (lastPiece covered ++ firstPiece (rest.drop covered.length))⟩
    ⟨firstLine, lastLine, column, [first, last], none⟩

end PatternLint
