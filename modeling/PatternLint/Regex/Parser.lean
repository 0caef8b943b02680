import PatternLint.Regex.Bracket
/-!
# Reading patterns

The reader goes through a pattern once, from left to right. It keeps the open groups on a stack, innermost
first, with the flags that are in force again when a group closes. Flags set inside a group hold up to its end,
in later alternatives too.
-/
namespace PatternLint.Regex

/-- An expression that was read, and how deeply it nests. -/
structure Item where
  regex : Regex
  depth : Nat
deriving DecidableEq, Repr

/-- What was read of a group: the finished alternatives and the items of the current one, last first. An item
that only sets flags is `none` and cannot be repeated. -/
structure Level where
  branches : List Item := []
  items : List (Option Item) := []
deriving DecidableEq, Repr

/-- A group that is still open. -/
structure OpenGroup where
  around : Level
  flags : Flags
  index : Option Nat
deriving DecidableEq, Repr

/-- The reader's state. -/
structure Reader where
  flags : Flags
  level : Level := {}
  outer : List OpenGroup := []
  groups : Nat := 0
  names : List (List Char) := []
deriving DecidableEq, Repr

/-- The deepest nesting that a pattern may have. -/
def maxDepth : Nat := 250

def deepest (items : List Item) : Nat := items.foldl (fun d i => max d i.depth) 0

namespace Level

/-- The current alternative as one item. -/
def branch (l : Level) : Item :=
  let items := (l.items.filterMap id).reverse
  ⟨concat (items.map (·.regex)), if l.items.length < 2 then deepest items else deepest items + 1⟩

/-- All alternatives as one item. -/
def whole (l : Level) : Item :=
  match l.branches with
  | [] => l.branch
  | bs =>
    let items := (l.branch :: bs).reverse
    ⟨anyOf (items.map (·.regex)), deepest items + 1⟩

end Level

namespace Reader

/-- Appends an item to the current alternative. -/
def push (r : Reader) (regex : Regex) (depth : Nat) : Reader :=
  { r with level := { r.level with items := some ⟨regex, depth⟩ :: r.level.items } }

/-- Sets flags for the rest of the group. -/
def setFlags (r : Reader) (f : Flags) : Reader :=
  { r with flags := f, level := { r.level with items := none :: r.level.items } }

/-- Goes on to the next alternative. -/
def nextBranch (r : Reader) : Reader :=
  { r with level := ⟨r.level.branch :: r.level.branches, []⟩ }

/-- Opens a group. -/
def openGroup (r : Reader) (index : Option Nat) (inside : Flags) : Reader :=
  { r with flags := inside, level := {}, outer := ⟨r.level, r.flags, index⟩ :: r.outer }

/-- Closes the innermost group. -/
def closeGroup (r : Reader) : Except Fault Reader :=
  match r.outer with
  | [] => .error .unopenedGroup
  | g :: outer =>
    let body := r.level.whole
    let regex := match g.index with
      | some i => group i body.regex
      | none => body.regex
    .ok ({ r with flags := g.flags, level := g.around, outer }.push regex (body.depth + 1))

/-- Repeats the last item. -/
def repeatLast (r : Reader) (min : Nat) (max : Option Nat) (greedy : Bool) : Except Fault Reader :=
  match r.level.items with
  | some i :: items =>
    .ok ({ r with level := { r.level with items } }.push
      (iterate i.regex min max (greedy != r.flags.swapGreed)) (i.depth + 1))
  | _ => .error .nothingToRepeat

end Reader

/-- The expression of an atom outside brackets. -/
def atomRegex (f : Flags) : Atom → Except Fault Regex
  | .literal c byte =>
    if byte && !f.unicode && 128 ≤ c.toNat then .error .splitsCharacters
    else .ok (ofSet (f.foldSet (.singleton c)) (!f.unicode))
  | .set s => .ok (ofSet s (!f.unicode))
  | .assertion a => .ok (assertion a)
  | .dot =>
    if !f.unicode then .error .splitsCharacters
    else if f.dotAll then .ok (ofSet (.range 0 CharSet.top) false)
    else if f.crlf then .ok (ofSet (CharSet.compl ⟨[(10, 10), (13, 13)]⟩) false)
    else .ok (ofSet (CharSet.compl ⟨[(10, 10)]⟩) false)

/-- Reads flags up to the colon or parenthesis after them, which is given back. `seen` are the flags read so
far, `negate` whether a dash came before. -/
def readFlags (f : Flags) (seen : List Char) (negate : Bool) : List Char → Except Fault (Flags × Char × List Char)
  | [] => .error .flags
  | c :: cs =>
    if c = ':' ∨ c = ')' then
      if seen.head? = some '-' then .error .flags else .ok (f, c, cs)
    else if seen.contains c then .error .flags
    else
      match c with
      | '-' => readFlags f (c :: seen) true cs
      | 'i' => readFlags { f with ignoreCase := !negate } (c :: seen) negate cs
      | 'm' => readFlags { f with multiLine := !negate } (c :: seen) negate cs
      | 's' => readFlags { f with dotAll := !negate } (c :: seen) negate cs
      | 'U' => readFlags { f with swapGreed := !negate } (c :: seen) negate cs
      | 'u' => readFlags { f with unicode := !negate } (c :: seen) negate cs
      | 'R' => readFlags { f with crlf := !negate } (c :: seen) negate cs
      | 'x' => readFlags { f with verbose := !negate } (c :: seen) negate cs
      | _ => .error .flags

/-- Whether a character may stand in the name of a group. -/
def isNameChar (first : Bool) (c : Char) : Bool :=
  c = '_' || isLetter c || (!first && (c = '.' || c = '[' || c = ']' || isNumber c))
where
  isLetter (c : Char) : Bool :=
    if c.toNat < 128 then c.isAlpha else ((CharSet.binaryProperties.find? "alphabetic").getD .empty).contains c
  isNumber (c : Char) : Bool :=
    if c.toNat < 128 then c.isDigit else (CharSet.anyCategory ["nd", "nl", "no"]).contains c

/-- Reads the name of a group up to its closing angle. -/
def groupName (name : List Char) : List Char → Except Fault (List Char × List Char)
  | [] => .error .groupName
  | '>' :: cs => if name.isEmpty then .error .groupName else .ok (name.reverse, cs)
  | c :: cs => if isNameChar name.isEmpty c then groupName (c :: name) cs else .error .groupName

/-- Reads what follows an opening parenthesis. -/
def readGroup (r : Reader) (cs : List Char) : Except Fault (Reader × List Char) :=
  let named (cs : List Char) : Except Fault (Reader × List Char) := do
    let (name, cs) ← groupName [] cs
    if r.names.contains name then .error .groupName
    else
      let r := { r with groups := r.groups + 1, names := name :: r.names }
      pure (r.openGroup (some r.groups) r.flags, cs)
  match r.flags.skip cs with
  | '?' :: '=' :: _ | '?' :: '!' :: _ | '?' :: '<' :: '=' :: _ | '?' :: '<' :: '!' :: _ => .error .lookaround
  | '?' :: 'P' :: '<' :: cs => named cs
  | '?' :: '<' :: cs => named cs
  | '?' :: cs => do
    let (f, stop, rest) ← readFlags r.flags [] false cs
    if stop = ':' then pure (r.openGroup none f, rest)
    else if cs.head? = some ')' then .error .nothingToRepeat
    else pure (r.setFlags f, rest)
  | cs =>
    let r := { r with groups := r.groups + 1 }
    .ok (r.openGroup (some r.groups) r.flags, cs)

/-- Reads digits, with the layout between them. -/
def digits (f : Flags) (n : Option Nat) (inComment : Bool) : List Char → Option Nat × List Char
  | [] => (n, [])
  | c :: cs =>
    if inComment then digits f n (c != '\n') cs
    else if c.isDigit then digits f (some (n.getD 0 * 10 + (c.toNat - '0'.toNat))) false cs
    else if f.verbose && isBlank c then digits f n false cs
    else if f.verbose && c = '#' then digits f n true cs
    else (n, c :: cs)

/-- Reads the count of a repetition, with blanks around it; it must fit in 32 bits. -/
def readCount (f : Flags) (cs : List Char) : Except Fault (Nat × List Char) :=
  match digits f none false (cs.dropWhile isBlank) with
  | (some n, cs) => if n < UInt32.size then .ok (n, f.skip (cs.dropWhile isBlank)) else .error .repetitionCount
  | (none, _) => .error .repetitionCount

/-- Whether a repetition is marked with a question mark. -/
def readGreed : List Char → Bool × List Char
  | '?' :: cs => (false, cs)
  | cs => (true, cs)

/-- Reads a repetition in braces, after the opening one. -/
def readBraces (r : Reader) (cs : List Char) : Except Fault (Reader × List Char) := do
  let f := r.flags
  let (min, cs) ← readCount f (f.skip cs)
  let (max, cs) ← match cs with
    | ',' :: cs =>
      match f.skip cs with
      | '}' :: cs => .ok (none, '}' :: cs)
      | cs => do
        let (n, cs) ← readCount f cs
        pure (some n, cs)
    | cs => .ok (some min, cs)
  match cs with
  | '}' :: cs =>
    if max.any (· < min) then .error .repetitionCount
    else
      let (greedy, cs) := readGreed (f.skip cs)
      pure (← r.repeatLast min max greedy, cs)
  | _ => .error .repetitionCount

/-- Reads the next unit of a pattern that begins with `c`. -/
def readUnit (r : Reader) (c : Char) (cs : List Char) : Except Fault (Reader × List Char) :=
  let f := r.flags
  let quantifier (min : Nat) (max : Option Nat) : Except Fault (Reader × List Char) := do
    let (greedy, cs) := readGreed cs
    pure (← r.repeatLast min max greedy, cs)
  let atom (a : Atom) (cs : List Char) : Except Fault (Reader × List Char) := do
    pure (r.push (← atomRegex f a) 0, cs)
  match c with
  | '(' => readGroup r cs
  | ')' => do pure (← r.closeGroup, cs)
  | '|' => .ok (r.nextBranch, cs)
  | '[' => do
    let (s, depth, rest) ← bracketed f cs
    pure (r.push (ofSet s (!f.unicode)) depth, rest)
  | '?' => quantifier 0 (some 1)
  | '*' => quantifier 0 none
  | '+' => quantifier 1 none
  | '{' => readBraces r cs
  | '\\' => do
    let (a, rest) ← escape f cs
    atom a rest
  | '.' => atom .dot cs
  | '^' => atom (.assertion (if f.multiLine then .lineStart f.crlf else .textStart)) cs
  | '$' => atom (.assertion (if f.multiLine then .lineEnd f.crlf else .textEnd)) cs
  | _ => atom (.literal c false) cs

/-- Reads a pattern to its end. Each round reads a character at least, so `budget` need not exceed it. -/
def readUnits (r : Reader) (cs : List Char) : (budget : List Char) → Except Fault Reader
  | [] => .ok r
  | _ :: budget =>
    match r.flags.skip cs with
    | [] => .ok r
    | c :: cs => do
      let (r, rest) ← readUnit r c cs
      readUnits r rest budget

/-- The expression that a pattern writes. -/
def parse (f : Flags) (pattern : List Char) : Except Fault Regex := do
  let r ← readUnits { flags := f } pattern pattern
  if !r.outer.isEmpty then .error .unclosedGroup
  else
    let whole := r.level.whole
    if maxDepth < whole.depth then .error .nestedTooDeeply else pure whole.regex

end PatternLint.Regex
