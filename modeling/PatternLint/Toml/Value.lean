/-!
# TOML values

The values of a configuration text. Fractions and dates are kept only as such, since no setting takes one. Tables
remember how they came about, which decides how later lines may add to them.
-/
namespace PatternLint.Toml

/-- How a table came about. -/
inductive TableKind where
  /-- Written in braces: complete as it stands. -/
  | inline
  /-- Opened by a header, or the document itself. -/
  | header
  /-- Passed through by a longer header; a header of its own may still open it. -/
  | implied
  /-- Passed through by a dotted key. -/
  | dotted
deriving DecidableEq, Repr

inductive Value where
  | string (s : String)
  | integer (n : Int)
  | float
  | boolean (b : Bool)
  | datetime
  | array (items : List Value)
  | table (kind : TableKind) (entries : List (String × Value))
  /-- The tables under repeated double-bracket headers, the last one apart, those before it last first. -/
  | tables (last : List (String × Value)) (earlier : List (List (String × Value)))

/-- The keys of a table with their values, in the order of their first lines. -/
abbrev Entries := List (String × Value)

namespace Value

def string? : Value → Option String
  | string s => some s
  | _ => none

def boolean? : Value → Option Bool
  | boolean b => some b
  | _ => none

/-- A whole number that is not negative. -/
def natural? : Value → Option Nat
  | integer (.ofNat n) => some n
  | _ => none

/-- The elements of a list, be it an array or tables under repeated headers. -/
def elements? : Value → Option (List Value)
  | array items => some items
  | tables last earlier => some ((last :: earlier).reverse.map (table .header))
  | _ => none

/-- A list whose elements all read. -/
def list? {α : Type} (read : Value → Option α) (v : Value) : Option (List α) := do (← v.elements?).mapM read

/-- The fields of a record: a table holds them by name and a list by position. A date has none of them, and other
values are no records. -/
def record? (names : List String) : Value → Option (String → Option Value)
  | table _ entries => some fun name => entries.lookup name
  | datetime => some fun _ => none
  | v => v.elements?.map fun items name => (names.zip items).lookup name

end Value

/-- Reads a field; one that is absent has its default. -/
def field {α : Type} (v : Option Value) (read : Value → Option α) (absent : α) : Option α :=
  match v with
  | none => some absent
  | some v => read v

/-- Reads a field that may be absent. -/
def optionalField {α : Type} (v : Option Value) (read : Value → Option α) : Option (Option α) :=
  field v (fun v => (read v).map some) none

end PatternLint.Toml
