import PatternLint.Regex.Escape
/-!
# Bracketed classes

A class in brackets is a union of characters, ranges and classes, which may be combined with further unions by
intersection, difference and symmetric difference, from left to right. Brackets nest. The reader keeps the open
brackets on a stack, innermost first.
-/
namespace PatternLint.Regex

/-- An operator between two unions in a class. -/
inductive SetOp where
  | inter
  | diff
  | symmDiff
deriving DecidableEq, Repr

def SetOp.apply : SetOp → CharSet → CharSet → CharSet
  | inter, s, t => s.inter t
  | diff, s, t => s.diff t
  | symmDiff, s, t => s.symmDiff t

/-- A set that was read, and how deeply it nests. -/
structure Operand where
  set : CharSet
  depth : Nat
deriving DecidableEq, Repr

/-- An open bracket: what stands left of the last operator, and the union since. -/
structure Bracket where
  negated : Bool
  left : Option (SetOp × Operand) := none
  union : CharSet := .empty
  /-- How many items the union has. -/
  items : Nat := 0
  /-- The depth of the deepest item. -/
  depth : Nat := 0
deriving DecidableEq, Repr

namespace Bracket

def add (b : Bracket) (s : CharSet) (depth : Nat) : Bracket :=
  { b with union := b.union.union s, items := b.items + 1, depth := max b.depth depth }

/-- What was read up to here, with the pending operator applied. Case is folded on both sides of it. -/
def operand (f : Flags) (b : Bracket) : Operand :=
  let right : Operand := ⟨b.union, if b.items < 2 then b.depth else b.depth + 1⟩
  match b.left with
  | none => right
  | some (op, left) => ⟨op.apply (f.foldSet left.set) (f.foldSet right.set), max left.depth right.depth + 1⟩

/-- Starts a new union after an operator. -/
def combine (f : Flags) (b : Bracket) (op : SetOp) : Bracket :=
  { negated := b.negated, left := some (op, b.operand f) }

end Bracket

/-- Reads the beginning of a bracket: a caret negates it, and dashes or a closing bracket that come first stand
for themselves. -/
def openBracket (f : Flags) (cs : List Char) : Except Fault (Bracket × List Char) := do
  let cs := f.skip cs
  let (negated, cs) := match cs with
    | '^' :: cs => (true, f.skip cs)
    | cs => (false, cs)
  let (b, cs) := dashes { negated } false cs
  match cs with
  | [] => .error .unclosedClass
  | ']' :: rest =>
    if b.items = 0 then
      match f.skip rest with
      | [] => .error .unclosedClass
      | rest => .ok (b.add (.singleton ']') 0, rest)
    else .ok (b, cs)
  | _ => .ok (b, cs)
where
  dashes (b : Bracket) (inComment : Bool) : List Char → Bracket × List Char
    | [] => (b, [])
    | c :: cs =>
      if inComment then dashes b (c != '\n') cs
      else if f.verbose && isBlank c then dashes b false cs
      else if f.verbose && c = '#' then dashes b true cs
      else if c = '-' then dashes (b.add (.singleton '-') 0) false cs
      else (b, c :: cs)

/-- A class written `[:name:]`, after its first bracket; `none` if it is not one. -/
def namedClass? (cs : List Char) : Option (CharSet × Bool × List Char) :=
  match cs with
  | ':' :: cs =>
    let (negated, cs) := match cs with
      | '^' :: cs => (true, cs)
      | cs => (false, cs)
    match cutAt? [':'] cs with
    | some (name, ']' :: rest) => (CharSet.named? (String.ofList name)).map fun s => (s, negated, rest)
    | _ => none
  | _ => none

/-- The next character that is neither blank nor the start of a comment, looking past a dash. -/
def peekPast (inComment : Bool) : List Char → Option Char
  | [] => none
  | c :: cs =>
    if isBlank c then peekPast inComment cs
    else if !inComment && c = '#' then peekPast true cs
    else some c

/-- The character that decides what a dash before `cs` means. -/
def afterDash (f : Flags) (cs : List Char) : Option Char :=
  if f.verbose then (peekPast false cs).orElse fun _ => cs.head? else cs.head?

/-- Reads a character or an escape inside brackets. -/
def classAtom (f : Flags) : List Char → Except Fault (Atom × List Char)
  | [] => .error .unclosedClass
  | '\\' :: cs => escape f cs
  | c :: cs => .ok (.literal c false, cs)

/-- The character that an atom adds to a class. Without the characters past the first 128 none of them may be
named. -/
def classChar (f : Flags) : Atom → Except Fault Char
  | .literal c _ => if f.unicode || c.toNat < 128 then .ok c else .error .splitsCharacters
  | _ => .error .classRange

/-- Reads a range or a single item. -/
def classItem (f : Flags) (cs : List Char) : Except Fault (CharSet × List Char) := do
  let (first, cs) ← classAtom f cs
  let single (cs : List Char) : Except Fault (CharSet × List Char) :=
    match first with
    | .literal _ _ => do pure (.singleton (← classChar f first), cs)
    | .set s => .ok (s, cs)
    | _ => .error .classItem
  match f.skip cs with
  | [] => .error .unclosedClass
  | '-' :: rest =>
    match afterDash f rest with
    | some ']' | some '-' => single ('-' :: rest)
    | _ => do
      let (last, rest) ← classAtom f (f.skip rest)
      let lo ← classChar f first
      let hi ← classChar f last
      if lo ≤ hi then .ok (.range lo.toNat hi.toNat, rest) else .error .classRange
  | cs => single cs

/-- What one step of reading a class leads to. -/
inductive ClassStep where
  | more (b : Bracket) (outer : List Bracket) (rest : List Char)
  | done (set : CharSet) (depth : Nat) (rest : List Char)

/-- Reads the next item, operator or bracket of a class. -/
def classStep (f : Flags) (b : Bracket) (outer : List Bracket) (cs : List Char) : Except Fault ClassStep :=
  match f.skip cs with
  | [] => .error .unclosedClass
  | '[' :: cs =>
    match namedClass? cs with
    | some (s, negated, rest) => do pure (.more (b.add (← f.classSet negated s) 0) outer rest)
    | none => do
      let (inner, rest) ← openBracket f cs
      pure (.more inner (b :: outer) rest)
  | ']' :: cs => do
    let whole := b.operand f
    let set ← f.classSet b.negated whole.set
    match outer with
    | [] => pure (.done set (whole.depth + 1) cs)
    | b' :: outer => pure (.more (b'.add set (whole.depth + 1)) outer cs)
  | '&' :: '&' :: cs => .ok (.more (b.combine f .inter) outer cs)
  | '-' :: '-' :: cs => .ok (.more (b.combine f .diff) outer cs)
  | '~' :: '~' :: cs => .ok (.more (b.combine f .symmDiff) outer cs)
  | cs => do
    let (s, rest) ← classItem f cs
    pure (.more (b.add s 0) outer rest)

/-- Reads the rest of a class. Each step reads a character at least, so `budget` need not exceed the text. -/
def classSteps (f : Flags) (b : Bracket) (outer : List Bracket) (cs : List Char) :
    (budget : List Char) → Except Fault (CharSet × Nat × List Char)
  | [] => .error .unclosedClass
  | _ :: budget => do
    match ← classStep f b outer cs with
    | .done s depth rest => pure (s, depth, rest)
    | .more b outer rest => classSteps f b outer rest budget

/-- Reads a class after its first bracket: its characters, how deeply it nests, and the rest. -/
def bracketed (f : Flags) (cs : List Char) : Except Fault (CharSet × Nat × List Char) := do
  let (b, rest) ← openBracket f cs
  classSteps f b [] rest cs

end PatternLint.Regex
