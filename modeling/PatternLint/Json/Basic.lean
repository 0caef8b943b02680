/-!
# JSON values

The values of the JSON report. Whole numbers keep their value; of other numbers it is only known that they are
numbers.
-/
namespace PatternLint

inductive Json where
  | null
  | bool (b : Bool)
  | number (n : Int)
  | fraction
  | string (s : String)
  | array (items : List Json)
  | object (entries : List (String × Json))
deriving Inhabited

namespace Json

def bool? : Json → Option Bool
  | bool b => some b
  | _ => none

def string? : Json → Option String
  | string s => some s
  | _ => none

/-- A whole number that is not negative and fits into 64 bits. -/
def natural? : Json → Option Nat
  | number (.ofNat n) => if n < UInt64.size then some n else none
  | _ => none

/-- A list whose items all read. -/
def list? {α : Type} (read : Json → Option α) : Json → Option (List α)
  | array items => items.mapM read
  | _ => none

/-- The fields of a record: an object holds them by name. An array holds them by position, and those that are not
optional have to be there. -/
def record? (names : List String) (optional : Nat) : Json → Option (String → Option Json)
  | object entries => some fun name => entries.lookup name
  | array items =>
    if names.length ≤ items.length + optional && items.length ≤ names.length then
      some fun name => (names.zip items).lookup name
    else none
  | _ => none

/-- Reads a field that may be absent or null. -/
def optional? {α : Type} (read : Json → Option α) : Option Json → Option (Option α)
  | none | some null => some none
  | some v => (read v).map some

end Json

end PatternLint
