/-!
# Sets of characters

A set is a list of ranges of code points, in increasing order. `insert` joins ranges that meet or touch. The code
points from `0xD800` to `0xDFFF` belong to no character: what follows the last character before them is the first one
after them, so that a complement never ends or begins within them.
-/
namespace PatternLint

/-- A set of characters, as separate ranges of code points in increasing order. -/
structure CharSet where
  ranges : List (Nat × Nat)
deriving DecidableEq, Repr

namespace CharSet

/-- The last code point. -/
def top : Nat := 0x10FFFF

/-- The code point of the next character. -/
def next (n : Nat) : Nat := if n = 0xD7FF then 0xE000 else n + 1

/-- The code point of the character before. -/
def previous (n : Nat) : Nat := if n = 0xE000 then 0xD7FF else n - 1

/-- Whether a code point lies in one of the ranges; the ranges past it are not looked at. -/
def covers (n : Nat) : List (Nat × Nat) → Bool
  | [] => false
  | (lo, hi) :: rs => if n < lo then false else if n ≤ hi then true else covers n rs

/-- Whether a character belongs to the set. -/
def contains (s : CharSet) (c : Char) : Bool := covers c.toNat s.ranges

/-- Adds the range `lo` to `hi`, joining it with the ranges that it meets or touches. -/
def insertRange (lo hi : Nat) : List (Nat × Nat) → List (Nat × Nat)
  | [] => [(lo, hi)]
  | (a, b) :: rs =>
    if hi + 1 < a then (lo, hi) :: (a, b) :: rs
    else if b + 1 < lo then (a, b) :: insertRange lo hi rs
    else insertRange (min lo a) (max hi b) rs

/-- What lies after `last` and between the ranges. Between two characters that follow each other and yet belong to
different ranges, the range has both. -/
def gapsAfter (last : Nat) : List (Nat × Nat) → List (Nat × Nat)
  | [] => if last < top then [(next last, top)] else []
  | (a, b) :: rs => (min (next last) (previous a), max (next last) (previous a)) :: gapsAfter b rs

/-- What lies in none of the ranges. -/
def gaps : List (Nat × Nat) → List (Nat × Nat)
  | [] => [(0, top)]
  | (a, b) :: rs => if 0 < a then (0, previous a) :: gapsAfter b rs else gapsAfter b rs

/-- What the ranges have from `lo` to `hi`. -/
def cut (lo hi : Nat) : List (Nat × Nat) → List (Nat × Nat)
  | [] => []
  | (a, b) :: rs =>
    if hi < a then []
    else if b < lo then cut lo hi rs
    else (max lo a, min hi b) :: cut lo hi rs

/-- What the ranges have outside `lo` to `hi`. -/
def remove (lo hi : Nat) : List (Nat × Nat) → List (Nat × Nat)
  | [] => []
  | (a, b) :: rs =>
    if hi < a then (a, b) :: rs
    else if b < lo then (a, b) :: remove lo hi rs
    else
      let left := if a < lo then [(a, previous lo)] else []
      let right := if hi < b then [(next hi, b)] else []
      left ++ right ++ remove lo hi rs

def empty : CharSet := ⟨[]⟩

/-- The set of the code points from `lo` to `hi`. -/
def range (lo hi : Nat) : CharSet := ⟨[(lo, hi)]⟩

def singleton (c : Char) : CharSet := range c.toNat c.toNat

def insert (lo hi : Nat) (s : CharSet) : CharSet := ⟨insertRange lo hi s.ranges⟩

def ofRanges (rs : List (Nat × Nat)) : CharSet := rs.foldl (fun s r => s.insert r.1 r.2) empty

def union (s t : CharSet) : CharSet := t.ranges.foldl (fun s r => s.insert r.1 r.2) s

def compl (s : CharSet) : CharSet := ⟨gaps s.ranges⟩

def inter (s t : CharSet) : CharSet := ⟨t.ranges.flatMap fun r => cut r.1 r.2 s.ranges⟩

def diff (s t : CharSet) : CharSet := ⟨t.ranges.foldl (fun rs r => remove r.1 r.2 rs) s.ranges⟩

def symmDiff (s t : CharSet) : CharSet := (s.union t).diff (s.inter t)

/-- Whether the set has only characters below 128. -/
def isAscii (s : CharSet) : Bool := s.ranges.all fun r => r.2 < 128

end CharSet

end PatternLint
