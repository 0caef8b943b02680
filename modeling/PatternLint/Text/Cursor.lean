/-!
# Positions in a text

A text is a list of characters, and a position in it is a `Cursor`: what stands before it, its offset in
bytes of UTF-8, and what is left. A cursor is always between two characters, so an offset that comes from
one never splits a character.
-/
namespace PatternLint

/-- The number of bytes of a text in UTF-8. -/
def byteLength : List Char → Nat
  | [] => 0
  | c :: cs => c.utf8Size + byteLength cs

/-- A place between two characters of a text. -/
structure Cursor where
  before : Option Char
  offset : Nat
  rest : List Char
deriving DecidableEq, Repr

namespace Cursor

/-- The beginning of a text. -/
def start (text : List Char) : Cursor := ⟨none, 0, text⟩

/-- The character after the cursor. -/
def after (c : Cursor) : Option Char := c.rest.head?

/-- One character further on, or `none` at the end of the text. -/
def next? (c : Cursor) : Option Cursor :=
  match c.rest with
  | [] => none
  | x :: xs => some ⟨some x, c.offset + x.utf8Size, xs⟩

/-- Past the characters for which `p` holds, up to the first for which it does not. -/
def dropWhile (p : Char → Bool) (c : Cursor) : Cursor := go c.before c.offset c.rest
where
  go (before : Option Char) (offset : Nat) : List Char → Cursor
    | [] => ⟨before, offset, []⟩
    | x :: xs => if p x then go (some x) (offset + x.utf8Size) xs else ⟨before, offset, x :: xs⟩

/-- Past `word`, if the text goes on with it. -/
def strip? (word : List Char) (c : Cursor) : Option Cursor := go c.before c.offset word c.rest
where
  go (before : Option Char) (offset : Nat) : List Char → List Char → Option Cursor
    | [], rest => some ⟨before, offset, rest⟩
    | _ :: _, [] => none
    | w :: ws, x :: xs => if w = x then go (some x) (offset + x.utf8Size) ws xs else none

/-- The same place, with what stands before it out of sight. -/
def alone (c : Cursor) : Cursor := { c with before := none }

end Cursor

end PatternLint
