import PatternLint.CharSet.Fold
import PatternLint.Regex.Basic
/-!
# Reading patterns: flags and layout

What the parts of the pattern reader share: the reasons to refuse a pattern, the flags in force, and the
blanks and comments that may stand anywhere in a pattern read in verbose mode.
-/
namespace PatternLint.Regex

/-- Why a pattern is refused. -/
inductive Fault where
  | unclosedGroup
  | unopenedGroup
  | lookaround
  | groupName
  | flags
  | nothingToRepeat
  | repetitionCount
  | escape
  | wordEdge
  | unclosedClass
  | classItem
  | classRange
  | unknownProperty
  /-- Without the characters past the first 128, this could match a part of a character. -/
  | splitsCharacters
  | nestedTooDeeply
  | tooBig
deriving DecidableEq, Repr

/-- The flags in force at a place of a pattern. -/
structure Flags where
  ignoreCase : Bool := false
  multiLine : Bool := false
  dotAll : Bool := false
  /-- Repetitions prefer few rounds, and many if marked with a question mark. -/
  swapGreed : Bool := false
  unicode : Bool := true
  crlf : Bool := false
  /-- Blanks and comments in the pattern are not part of it. -/
  verbose : Bool := false
deriving DecidableEq, Repr

/-- Drops blanks and comments; a comment goes from a number sign to the end of the line. -/
def skipLayout (inComment : Bool) : List Char → List Char
  | [] => []
  | c :: cs =>
    if inComment then skipLayout (c != '\n') cs
    else if isBlank c then skipLayout false cs
    else if c = '#' then skipLayout true cs
    else c :: cs

namespace Flags

/-- Drops blanks and comments if the pattern is read in verbose mode. -/
def skip (f : Flags) (cs : List Char) : List Char := if f.verbose then skipLayout false cs else cs

/-- A set with the other case of its characters if case is ignored. -/
def foldSet (f : Flags) (s : CharSet) : CharSet :=
  if f.ignoreCase then (if f.unicode then s.fold else s.foldAscii) else s

/-- The set that a class stands for: case comes first, then the complement. -/
def classSet (f : Flags) (negated : Bool) (s : CharSet) : Except Fault CharSet :=
  let s := f.foldSet s
  if negated then (if f.unicode then .ok s.compl else .error .splitsCharacters) else .ok s

end Flags

end PatternLint.Regex
