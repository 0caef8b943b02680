import PatternLint.CharSet.Property
import PatternLint.Regex.Syntax
/-!
# Escapes

What a backslash introduces: a character, a class or an assertion. A letter or digit without a meaning of its
own cannot be escaped, and neither can a character past the first 128.
-/
namespace PatternLint.Regex

/-- The smallest unit of a pattern. -/
inductive Atom where
  /-- A character; `byte` if it was written as two hexadecimal digits. -/
  | literal (c : Char) (byte : Bool)
  | set (s : CharSet)
  | assertion (a : Assertion)
  | dot
deriving DecidableEq, Repr

/-- The character with a code point, unless none has it. -/
def charOfCode? (n : Nat) : Option Char := if h : n.isValidChar then some (Char.ofNatAux n h) else none

/-- Reads exactly `k` hexadecimal digits. -/
def hexDigits (f : Flags) : (k n : Nat) → List Char → Except Fault (Nat × List Char)
  | 0, n, cs => .ok (n, cs)
  | _ + 1, _, [] => .error .escape
  | k + 1, n, c :: cs =>
    match CharSet.hexDigit? c with
    | none => .error .escape
    | some d => hexDigits f k (n * 16 + d) (f.skip cs)

/-- What stands before the next closing brace, without the layout. -/
def untilBrace (f : Flags) (inComment : Bool) (word : List Char) : List Char → Option (List Char × List Char)
  | [] => none
  | c :: cs =>
    if inComment then untilBrace f (c != '\n') word cs
    else if f.verbose && isBlank c then untilBrace f false word cs
    else if f.verbose && c = '#' then untilBrace f true word cs
    else if c = '}' then some (word.reverse, cs)
    else untilBrace f false (c :: word) cs

/-- The number that hexadecimal digits write. -/
def hexValue? (cs : List Char) : Option Nat :=
  if cs.isEmpty then none else cs.foldl (fun n c => do pure ((← n) * 16 + (← CharSet.hexDigit? c))) (some 0)

/-- A character written by its code point: `k` digits, or any number of them in braces. -/
def hexEscape (f : Flags) (k : Nat) (cs : List Char) : Except Fault (Atom × List Char) :=
  match f.skip cs with
  | '{' :: cs =>
    match untilBrace f false [] cs with
    | none => .error .escape
    | some (digits, cs) =>
      match (hexValue? digits).bind charOfCode? with
      | none => .error .escape
      | some c => .ok (.literal c false, f.skip cs)
  | cs => do
    let (n, cs) ← hexDigits f k 0 cs
    match charOfCode? n with
    | none => .error .escape
    | some c => .ok (.literal c (k == 2), cs)

/-- Cuts a list at the first place where `word` stands. -/
def cutAt? (word : List Char) : List Char → Option (List Char × List Char)
  | [] => none
  | c :: cs =>
    if word.isPrefixOf (c :: cs) then some ([], (c :: cs).drop word.length)
    else (cutAt? word cs).map fun (l, r) => (c :: l, r)

/-- The set of a class named in braces: a property, or a property and its value, and whether the class is that of the
characters that have another value. -/
def bracedProperty? (name : List Char) : Option (CharSet × Bool) :=
  let byValue (p : List Char × List Char) := CharSet.propertyValue? (String.ofList p.1) (String.ofList p.2)
  match cutAt? ['!', '='] name with
  | some p => (byValue p).map (·, true)
  | none => match cutAt? [':'] name with
    | some p => (byValue p).map (·, false)
    | none => match cutAt? ['='] name with
      | some p => (byValue p).map (·, false)
      | none => (CharSet.property? (String.ofList name)).map (·, false)

/-- A class named by a property. -/
def propertyEscape (f : Flags) (negated : Bool) (cs : List Char) : Except Fault (Atom × List Char) := do
  let (found, cs) ← match f.skip cs with
    | [] => .error .escape
    | '{' :: cs =>
      match untilBrace f false [] cs with
      | none => .error .escape
      | some (name, cs) => .ok (bracedProperty? name, cs)
    | '\\' :: _ => .error .unknownProperty
    | c :: cs => .ok ((CharSet.property? c.toString).map (·, false), f.skip cs)
  match found with
  | none => .error .unknownProperty
  | some (s, otherwise) =>
    if f.unicode then .ok (.set (← f.classSet (negated != otherwise) s), cs) else .error .unknownProperty

/-- A class named by one letter. Its characters are not folded: a class of whole scripts has both cases. -/
def letterClass (f : Flags) (all ascii : CharSet) (negated : Bool) : Except Fault Atom :=
  if f.unicode then .ok (.set (if negated then all.compl else all))
  else if negated then .error .splitsCharacters
  else .ok (.set ascii)

/-- The characters that name an edge of a word in braces. -/
def isEdgeChar (c : Char) : Bool := c.isAlpha || c = '-'

/-- The edge of a word named in braces after a boundary; `none` if the braces hold a count. -/
def namedEdge (f : Flags) (cs : List Char) : Except Fault (Option (WordEdge × List Char)) :=
  match cs with
  | '{' :: inner =>
    match f.skip inner with
    | [] => .error .wordEdge
    | c :: _ =>
      if !isEdgeChar c then .ok none
      else match untilBrace f false [] inner with
        | none => .error .wordEdge
        | some (name, rest) => match String.ofList name with
          | "start" => .ok (some (.start, rest))
          | "end" => .ok (some (.stop, rest))
          | "start-half" => .ok (some (.startHalf, rest))
          | "end-half" => .ok (some (.stopHalf, rest))
          | _ => .error .wordEdge
  | _ => .ok none

/-- Whether a character other than a letter or digit may be escaped to stand for itself. -/
def isEscapable (c : Char) : Bool := c.toNat < 128 && !c.isAlphanum && c != '<' && c != '>'

/-- Reads what follows a backslash. -/
def escape (f : Flags) : List Char → Except Fault (Atom × List Char)
  | [] => .error .escape
  | c :: cs =>
    let word (edge : WordEdge) : Atom := .assertion (.word edge (!f.unicode))
    let letter (all ascii : CharSet) (negated : Bool) := do pure (← letterClass f all ascii negated, cs)
    match c with
    | 'x' => hexEscape f 2 cs
    | 'u' => hexEscape f 4 cs
    | 'U' => hexEscape f 8 cs
    | 'p' => propertyEscape f false cs
    | 'P' => propertyEscape f true cs
    | 'd' => letter .digit .asciiDigit false
    | 'D' => letter .digit .asciiDigit true
    | 's' => letter .blank .asciiBlank false
    | 'S' => letter .blank .asciiBlank true
    | 'w' => letter .word .asciiWord false
    | 'W' => letter .word .asciiWord true
    | 'a' => .ok (.literal '\x07' false, cs)
    | 'f' => .ok (.literal '\x0c' false, cs)
    | 't' => .ok (.literal '\t' false, cs)
    | 'n' => .ok (.literal '\n' false, cs)
    | 'r' => .ok (.literal '\r' false, cs)
    | 'v' => .ok (.literal '\x0b' false, cs)
    | 'A' => .ok (.assertion .textStart, cs)
    | 'z' => .ok (.assertion .textEnd, cs)
    | 'b' => do
      match ← namedEdge f cs with
      | none => .ok (word .boundary, cs)
      | some (edge, cs) => .ok (word edge, cs)
    | 'B' => .ok (word .noBoundary, cs)
    | '<' => .ok (word .start, cs)
    | '>' => .ok (word .stop, cs)
    | _ => if isEscapable c then .ok (.literal c false, cs) else .error .escape

end PatternLint.Regex
