import PatternLint.Text.Cursor
/-!
# Spans

A span is a pair of byte offsets into a text. Nothing is assumed of it: the end may come before the start, and
either may lie past the text or inside a character.
-/
namespace PatternLint

/-- A part of a text, from byte `start` up to byte `stop`. -/
structure Span where
  start : Nat
  stop : Nat
deriving DecidableEq, Repr

/-- The longest beginning of a text that has at most `n` bytes, and the rest. -/
def splitBytes (n : Nat) (text : List Char) : List Char × List Char := go n [] text
where
  go (n : Nat) (taken : List Char) : List Char → List Char × List Char
    | [] => (taken.reverse, [])
    | c :: cs => if c.utf8Size ≤ n then go (n - c.utf8Size) (c :: taken) cs else (taken.reverse, c :: cs)

/-- A text cut at byte `n`, if that lies in it and between two characters. -/
def cutBytes? (n : Nat) (text : List Char) : Option (List Char × List Char) :=
  let (pre, post) := splitBytes n text
  if byteLength pre = n then some (pre, post) else none

namespace Span

/-- Whether the span lies in a text of the given length, its end not before its start. -/
def fits (s : Span) (length : Nat) : Bool := s.start ≤ s.stop && s.stop ≤ length

/-- The number of bytes, unless the end comes before the start. -/
def length? (s : Span) : Option Nat := if s.start ≤ s.stop then some (s.stop - s.start) else none

/-- Whether the ends coincide. -/
def isEmpty (s : Span) : Bool := s.start == s.stop

/-- The text that a span covers, if its ends are in order and between characters of the text. -/
def slice? (s : Span) (text : List Char) : Option (List Char) :=
  if s.start ≤ s.stop then
    (cutBytes? s.start text).bind fun (_, post) => (cutBytes? (s.stop - s.start) post).map (·.1)
  else none

end Span

/-- What a search for all matches gives: the matches, and the offsets where one was given up. -/
structure Matches where
  spans : List Span
  abandoned : List Nat
deriving DecidableEq, Repr

end PatternLint
