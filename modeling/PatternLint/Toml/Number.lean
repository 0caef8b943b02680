import PatternLint.Toml.Text
import PatternLint.Toml.Value
/-!
# Numbers and dates of TOML

Integers have 64 bits with a sign. Single underscores may stand between digits, and a decimal number has no zero in
front. Of fractions and dates only the form is checked, and that a fraction is not too large for a double.
-/
namespace PatternLint.Toml

/-- Reads the rest of a run of digits with single underscores between them. -/
def moreDigits (isDigit : Char → Bool) (digits : List Char) : List Char → List Char × List Char
  | [] => (digits.reverse, [])
  | '_' :: c :: cs => if isDigit c then moreDigits isDigit (c :: digits) cs else (digits.reverse, '_' :: c :: cs)
  | c :: cs => if isDigit c then moreDigits isDigit (c :: digits) cs else (digits.reverse, c :: cs)

/-- Reads a run of digits with single underscores between them. -/
def digitRun (isDigit : Char → Bool) : Reader (List Char)
  | c :: cs => if isDigit c then some (moreDigits isDigit [c] cs) else none
  | [] => none

/-- The number that digits write. -/
def digitsValue (base : Nat) (digits : List Char) : Nat :=
  digits.foldl (fun n c => n * base + (hexDigit? c).getD 0) 0

/-- Reads a sign; the answer is whether it was a minus. -/
def sign : List Char → Bool × List Char
  | '-' :: cs => (true, cs)
  | '+' :: cs => (false, cs)
  | cs => (false, cs)

/-- Reads the digits of a decimal number: a zero alone, or a run that begins with another digit. -/
def decimalDigits : Reader (List Char)
  | '0' :: cs => some (['0'], cs)
  | cs => digitRun Char.isDigit cs

/-- An integer, if 64 bits hold it. -/
def integer? (negative : Bool) (n : Nat) : Option Value :=
  if negative then if n ≤ UInt64.size / 2 then some (.integer (-n)) else none
  else if n < UInt64.size / 2 then some (.integer n) else none

/-- Reads an integer. -/
def integer : Reader Value
  | '0' :: 'x' :: cs => based 16 (fun c => (hexDigit? c).isSome) cs
  | '0' :: 'o' :: cs => based 8 (fun c => '0' ≤ c && c ≤ '7') cs
  | '0' :: 'b' :: cs => based 2 (fun c => c = '0' || c = '1') cs
  | cs => do
    let (negative, cs) := sign cs
    let (digits, cs) ← decimalDigits cs
    some (← integer? negative (digitsValue 10 digits), cs)
where
  based (base : Nat) (isDigit : Char → Bool) (cs : List Char) : Option (Value × List Char) := do
    let (digits, cs) ← digitRun isDigit cs
    some (← integer? false (digitsValue base digits), cs)

/-- Whether a decimal with the given digits and power of ten rounds to infinity as a double. -/
def overflows (digits : List Char) (exponent : Int) : Bool :=
  let significant := digits.dropWhile (· = '0')
  let n := digitsValue 10 significant
  let magnitude := significant.length + exponent
  let limit := Nat.pow 2 1024 - Nat.pow 2 970
  if n = 0 || magnitude < 308 then false
  else if 310 < magnitude then true
  else limit * Nat.pow 10 (-exponent).toNat ≤ n * Nat.pow 10 exponent.toNat

/-- Reads the exponent of a fraction. -/
def exponent : Reader Int
  | 'e' :: cs | 'E' :: cs => do
    let (negative, cs) := sign cs
    let (digits, cs) ← digitRun Char.isDigit cs
    let n := digitsValue 10 digits
    some (if negative then -n else n, cs)
  | _ => none

/-- Reads the digits after a point. -/
def fraction : Reader (List Char)
  | '.' :: cs => digitRun Char.isDigit cs
  | _ => none

/-- Reads a fraction: digits with a point, an exponent or both, or one of the words for infinity and no number. -/
def float (cs : List Char) : Option (Value × List Char) := do
  let (negative, cs) := sign cs
  match cs with
  | 'i' :: 'n' :: 'f' :: cs | 'n' :: 'a' :: 'n' :: cs => some (.float, cs)
  | _ =>
    let (digits, cs) ← decimalDigits cs
    let (decimals, exp, cs) ← match fraction cs with
      | some (decimals, cs) =>
        let (exp, cs) := (exponent cs).getD (0, cs)
        some (decimals, exp, cs)
      | none => (exponent cs).map fun (exp, cs) => ([], exp, cs)
    if !negative && overflows (digits ++ decimals) (exp - decimals.length) then none else some (.float, cs)

/-- Reads a number of exactly so many digits. -/
def digits (n : Nat) (cs : List Char) : Option (Nat × List Char) :=
  let ds := cs.take n
  if ds.length = n && ds.all Char.isDigit then some (digitsValue 10 ds, cs.drop n) else none

/-- Reads a given character. -/
def expect (c : Char) : List Char → Option (List Char)
  | d :: cs => if c = d then some cs else none
  | [] => none

def isLeapYear (year : Nat) : Bool := year % 4 = 0 && (year % 100 ≠ 0 || year % 400 = 0)

def daysInMonth (year month : Nat) : Nat :=
  if month = 2 then if isLeapYear year then 29 else 28
  else if month = 4 || month = 6 || month = 9 || month = 11 then 30
  else 31

/-- Reads a date. -/
def date (cs : List Char) : Option (List Char) := do
  let (year, cs) ← digits 4 cs
  let (month, cs) ← digits 2 (← expect '-' cs)
  let (day, cs) ← digits 2 (← expect '-' cs)
  if 1 ≤ month && month ≤ 12 && 1 ≤ day && day ≤ daysInMonth year month then some cs else none

/-- Reads a time of day. -/
def time (cs : List Char) : Option (List Char) := do
  let (hour, cs) ← digits 2 cs
  let (minute, cs) ← digits 2 (← expect ':' cs)
  let (second, cs) ← digits 2 (← expect ':' cs)
  if hour ≤ 23 && minute ≤ 59 && second ≤ 60 then
    match cs with
    | '.' :: c :: cs => if c.isDigit then some (cs.dropWhile Char.isDigit) else none
    | cs => some cs
  else none

/-- Reads the offset of a time zone. -/
def zone : List Char → Option (List Char)
  | 'Z' :: cs | 'z' :: cs => some cs
  | '+' :: cs | '-' :: cs => do
    let (hour, cs) ← digits 2 cs
    let (minute, cs) ← digits 2 (← expect ':' cs)
    if hour ≤ 23 && minute ≤ 59 then some cs else none
  | _ => none

/-- Reads a date, a time or both. -/
def datetime (cs : List Char) : Option (Value × List Char) :=
  match date cs with
  | none => (time cs).map fun cs => (.datetime, cs)
  | some cs =>
    let rest := match cs with
      | c :: after => if c = 'T' || c = 't' || c = ' ' then time after else none
      | [] => none
    some (.datetime, match rest with
      | none => cs
      | some rest => (zone rest).getD rest)

end PatternLint.Toml
