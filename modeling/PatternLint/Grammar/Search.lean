import PatternLint.Grammar.Parse
import PatternLint.Span
/-!
# Searching with a grammar

The start expression is tried at one place after the other. After a match that consumed something the search goes
on at its end, else one character further on. A match that consumes nothing is left out where the match before it
ended. Where an attempt fails after it was cut off, the place is given up and noted.
-/
namespace PatternLint.Matcher

/-- Searches from a place on; `spans` and `abandoned` hold what was found so far, last first, and `last` is the
end of the last match that consumed something. Every round moves on by a character at least, so `budget` need not
exceed the rest of the text. -/
def searchFrom (m : Matcher) (levels : Nat) (c : Cursor) (last : Option Nat) (spans : List Span)
    (abandoned : List Nat) (budget : List Char) : Matches :=
  let start := (m.skip levels c).1
  let attempt := m.parseSkipping levels m.start start
  let abandoned := if attempt.result.isNone && attempt.cutOff then start.offset :: abandoned else abandoned
  let (next, last, spans) : Option Cursor × Option Nat × List Span :=
    match attempt.result with
    | none => (start.next?, last, spans)
    | some stop =>
      if start.offset < stop.offset then (some stop, some stop.offset, ⟨start.offset, stop.offset⟩ :: spans)
      else (start.next?, last, if last = some stop.offset then spans else ⟨start.offset, stop.offset⟩ :: spans)
  match next, budget with
  | some next, _ :: budget => m.searchFrom levels next last spans abandoned budget
  | _, _ => ⟨spans.reverse, abandoned.reverse⟩

/-- All matches of the start expression in a text, with the given levels of nested calls. -/
def findAll (m : Matcher) (levels : Nat) (text : List Char) : Matches :=
  m.searchFrom levels (.start text) none [] [] text

end PatternLint.Matcher
