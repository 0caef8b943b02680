import PatternLint.CharSet.Basic
/-!
# Ranges of characters as ranges of bytes

The UTF-8 forms of a range of characters, as sequences of byte ranges: a form belongs to the range exactly if, for one
of the sequences, each of its bytes lies in the byte range at its place. The sequences are in increasing order.
-/
namespace PatternLint.CharSet

/-- The bytes of a code point in UTF-8. -/
def codeBytes (n : Nat) : List Nat :=
  if n < 0x80 then [n]
  else if n < 0x800 then [0xC0 + n / 64, 0x80 + n % 64]
  else if n < 0x10000 then [0xE0 + n / 4096, 0x80 + n / 64 % 64, 0x80 + n % 64]
  else [0xF0 + n / 262144, 0x80 + n / 4096 % 64, 0x80 + n / 64 % 64, 0x80 + n % 64]

/-- The ranges of code points whose forms have the same number of bytes. -/
def byLength : List (Nat × Nat) :=
  [(0, 0x7F), (0x80, 0x7FF), (0x800, 0xD7FF), (0xE000, 0xFFFF), (0x10000, top)]

/-- Cuts a range of several blocks of `size` code points into a first block that is not whole, the whole blocks, and a
last block that is not whole. -/
def alignTo (size : Nat) (r : Nat × Nat) : List (Nat × Nat) :=
  let (lo, hi) := r
  if lo / size = hi / size then [r]
  else
    let first := if lo % size = 0 then lo else (lo / size + 1) * size
    let last := if hi % size + 1 = size then hi + 1 else hi / size * size
    (if lo < first then [(lo, first - 1)] else []) ++
      (if first < last then [(first, last - 1)] else []) ++
      (if last ≤ hi then [(last, hi)] else [])

/-- Cuts a range such that the forms of each piece are a sequence of byte ranges. -/
def encodable (r : Nat × Nat) : List (Nat × Nat) :=
  (byLength.flatMap fun whole => cut whole.1 whole.2 [r]).flatMap fun r =>
    if r.2 < 0x80 then [r] else ((alignTo 64 r).flatMap (alignTo 4096)).flatMap (alignTo 262144)

/-- The forms of a set, as sequences of byte ranges. -/
def byteRanges (s : CharSet) : List (List (Nat × Nat)) :=
  (s.ranges.flatMap encodable).map fun r => (codeBytes r.1).zip (codeBytes r.2)

end PatternLint.CharSet
