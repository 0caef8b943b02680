import PatternLint.CharSet.Basic
/-!
# Written tables of characters

The tables of character properties are written as text: hexadecimal code points and ranges of them, set apart
by blanks. An entry is found under any of its names, which are in lower case and without separators.
-/
namespace PatternLint.CharSet

/-- The names of a set of characters, and the lines that write its ranges. -/
abbrev Table := List (List String × List String)

/-- The value of a hexadecimal digit. -/
def hexDigit? (c : Char) : Option Nat :=
  if '0' ≤ c ∧ c ≤ '9' then some (c.toNat - '0'.toNat)
  else if 'a' ≤ c ∧ c ≤ 'f' then some (c.toNat - 'a'.toNat + 10)
  else if 'A' ≤ c ∧ c ≤ 'F' then some (c.toNat - 'A'.toNat + 10)
  else none

/-- Reads ranges in increasing order. `first` is the lower end once its dash is passed, and `n` the number
being read. -/
def readRanges (first : Option Nat) (n : Nat) : List Char → List (Nat × Nat)
  | [] => [(first.getD n, n)]
  | ' ' :: cs => (first.getD n, n) :: readRanges none 0 cs
  | '-' :: cs => readRanges (some n) 0 cs
  | c :: cs => readRanges first (n * 16 + (hexDigit? c).getD 0) cs

/-- The set that lines of ranges write. -/
def ofText (lines : List String) : CharSet := ⟨lines.flatMap fun line => readRanges none 0 line.toList⟩

/-- The set listed under a name. -/
def Table.find? (t : Table) (name : String) : Option CharSet :=
  (List.find? (fun e => e.1.contains name) t).map fun e => ofText e.2

end PatternLint.CharSet
