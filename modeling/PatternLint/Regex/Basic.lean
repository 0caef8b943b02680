import PatternLint.Regex.Assertion
/-!
# Regular expressions

The expressions that the search runs on. Flags, classes and escapes are resolved when a pattern is read, so
that only texts, sets of characters, assertions and the ways to combine them are left. Alternatives are ordered: an
earlier one is preferred.

Expressions are built by `ofSet`, `concat`, `anyOf` and `iterate`, which keep them in a form where neighbouring texts
are one text and what all alternatives begin with stands once before them. The form decides which expressions count
as equal.
-/
namespace PatternLint

/-- A regular expression with preferences. -/
inductive Regex where
  /-- Matches without consuming. -/
  | empty
  /-- Consumes exactly this text. -/
  | literal (text : List Char)
  /-- Consumes one character of the set. A set is narrow if it was written where only the first 128 characters count;
  a narrow set and a wide one are different expressions. -/
  | set (s : CharSet) (narrow : Bool)
  | assertion (a : Regex.Assertion)
  | seq (first second : Regex)
  | alt (first second : Regex)
  /-- From `min` to `max` times, as often as possible if `greedy` and as seldom as possible if not. -/
  | times (r : Regex) (min : Nat) (max : Option Nat) (greedy : Bool)
  /-- A numbered group, which matches what its body matches. -/
  | group (index : Nat) (r : Regex)
deriving DecidableEq, Repr

namespace Regex

/-- Matches nowhere. -/
def never : Regex := set .empty true

/-- Consumes one character of a set. A set of one character is a text. -/
def ofSet (s : CharSet) (narrow : Bool) : Regex :=
  match s.ranges with
  | [] => never
  | [(lo, hi)] => if lo = hi then literal [Char.ofNat lo] else set s narrow
  | _ => set s narrow

/-- The expressions that follow one another at the top. -/
def parts : Regex → List Regex
  | empty => []
  | seq a b => a.parts ++ b.parts
  | r => [r]

/-- The alternatives at the top. -/
def branches : Regex → List Regex
  | alt a b => a.branches ++ b.branches
  | r => [r]

/-- Puts an expression before others; two texts become one. -/
def prepend (r : Regex) (rs : List Regex) : List Regex :=
  match r, rs with
  | literal s, literal t :: rs => literal (s ++ t) :: rs
  | r, rs => r :: rs

/-- One expression after the other. -/
def chain : List Regex → Regex
  | [] => empty
  | [r] => r
  | r :: rs => seq r (chain rs)

/-- Expressions that follow one another. -/
def concat (rs : List Regex) : Regex := chain ((rs.flatMap parts).foldr prepend [])

/-- The alternatives in order of preference; with none, nothing matches. -/
def choice : List Regex → Regex
  | [] => never
  | [r] => r
  | r :: rs => alt r (choice rs)

/-- The character of an expression that matches one character only. -/
def single? : Regex → Option Char
  | literal [c] => some c
  | _ => none

/-- The set of an expression that consumes one character of a set. -/
def set? : Regex → Option CharSet
  | set s _ => some s
  | _ => none

/-- The set that alternatives come to if all of them are single characters, or all are sets. -/
def unionOf? (rs : List Regex) : Option CharSet :=
  match rs.mapM single? with
  | some cs => some (cs.foldl (fun s c => s.insert c.toNat c.toNat) .empty)
  | none => (rs.mapM set?).map fun ss => ss.foldl .union .empty

/-- The longest list that both lists begin with. -/
def commonStart : List Regex → List Regex → List Regex
  | a :: as, b :: bs => if a = b then a :: commonStart as bs else []
  | _, _ => []

/-- What all of several chains begin with; a chain of fewer than two parts shares nothing. -/
def sharedStart : List (List Regex) → List Regex
  | [] => []
  | c :: cs => if (c :: cs).all (2 ≤ ·.length) then cs.foldl commonStart c else []

/-- The ordered choice between alternatives, none of which is a choice itself. Single characters are joined to a set,
and so are sets. What all alternatives begin with is matched once, and the choice is made after it; the alternatives
are shorter then, so that the number of their parts is enough `budget`. -/
def anyOfWithin : (budget : Nat) → List Regex → Regex
  | _, [r] => r
  | 0, rs => choice rs
  | budget + 1, rs =>
    match unionOf? rs with
    | some s => ofSet s false
    | none =>
      let chains := rs.map parts
      match sharedStart chains with
      | [] => choice rs
      | start =>
        let rest := chains.map fun c => concat (c.drop start.length)
        concat (start ++ [anyOfWithin budget (rest.flatMap branches)])

/-- The ordered choice between alternatives. -/
def anyOf (rs : List Regex) : Regex :=
  let rs := rs.flatMap branches
  anyOfWithin (rs.foldl (fun n r => n + r.parts.length) 1) rs

/-- Whether the expression never consumes. -/
def consumesNothing : Regex → Bool
  | empty | assertion _ => true
  | literal _ | set _ _ => false
  | seq a b | alt a b => a.consumesNothing && b.consumesNothing
  | times r _ max _ => max == some 0 || r.consumesNothing
  | group _ r => r.consumesNothing

/-- A repetition. What never consumes need not be repeated, and repeating exactly once changes nothing. -/
def iterate (r : Regex) (min : Nat) (max : Option Nat) (greedy : Bool) : Regex :=
  let (min, max) := if r.consumesNothing then (Nat.min min 1, some (Nat.min (max.getD 1) 1)) else (min, max)
  if min = 0 ∧ max = some 0 then empty
  else if min = 1 ∧ max = some 1 then r
  else times r min max greedy

/-- Whether a match can only begin where the text begins. -/
def startsText : Regex → Bool
  | assertion .textStart => true
  | seq a b => a.startsText || (a.consumesNothing && b.startsText)
  | alt a b => a.startsText && b.startsText
  | times r min _ _ => 0 < min && r.startsText
  | group _ r => r.startsText
  | _ => false

end Regex

end PatternLint
