/-!
# Glob patterns

The wildcards of file names. A question mark or a bracket stands for one character other than a slash, a star for
any run of such characters, and two stars that fill a whole component for any run of components.
-/
namespace PatternLint.Glob

/-- A range of characters in brackets; a single one has equal ends. -/
structure CharRange where
  lo : Char
  hi : Char
deriving DecidableEq, Repr

/-- A unit of a pattern. -/
inductive Token where
  | char (c : Char)
  | anyChar
  | oneOf (ranges : List CharRange)
  | noneOf (ranges : List CharRange)
  /-- Any run of characters within a component. -/
  | run
  /-- Any run of components. -/
  | components
deriving DecidableEq, Repr

/-- What is wrong with a pattern. -/
inductive Flaw where
  | stars
  | splitComponent
  | bracket
deriving DecidableEq, Repr

/-- A flaw and the position of the character near which it lies. -/
structure Fault where
  position : Nat
  flaw : Flaw
deriving DecidableEq, Repr

def Flaw.message : Flaw → String
  | stars => "wildcards are either regular `*` or recursive `**`"
  | splitComponent => "recursive wildcards must form a single path component"
  | bracket => "invalid range pattern"

def Fault.message (f : Fault) : String := s!"Pattern syntax error near position {f.position}: {f.flaw.message}"

/-- Reads the inside of brackets: three characters with a dash in the middle are a range. -/
def charRanges : List Char → List CharRange
  | a :: '-' :: b :: cs => ⟨a, b⟩ :: charRanges cs
  | a :: cs => ⟨a, a⟩ :: charRanges cs
  | [] => []

/-- Cuts a list at the first closing bracket. -/
def untilBracket (inside : List Char) : List Char → Option (List Char × List Char)
  | [] => none
  | ']' :: cs => some (inside.reverse, cs)
  | c :: cs => untilBracket (c :: inside) cs

/-- Reads a bracket after its opening. Its first character, after an exclamation mark that negates it, stands for
itself. -/
def readBracket : List Char → Option (Token × List Char)
  | '!' :: c :: cs => (untilBracket [c] cs).map fun (inside, rest) => (.noneOf (charRanges inside), rest)
  | ['!'] | [] => none
  | c :: cs => (untilBracket [c] cs).map fun (inside, rest) => (.oneOf (charRanges inside), rest)

/-- Adds a run of components; two in a row are one, except at the beginning. -/
def addComponents (tokens : List Token) : List Token :=
  match tokens with
  | .components :: _ :: _ => tokens
  | _ => .components :: tokens

/-- Reads a pattern. `position` counts the characters read, `afterSlash` says whether a component begins here, and
`tokens` holds what was read, last first. Each round reads a character at least, so `budget` need not exceed the
pattern. -/
def readFrom (position : Nat) (afterSlash : Bool) (tokens : List Token) (cs : List Char) :
    (budget : List Char) → Except Fault (List Token)
  | [] => .ok tokens.reverse
  | _ :: budget =>
    match cs with
    | [] => .ok tokens.reverse
    | '*' :: '*' :: '*' :: _ => .error ⟨position + 2, .stars⟩
    | '*' :: '*' :: rest =>
      if !afterSlash then .error ⟨position - 1, .splitComponent⟩
      else match rest with
        | [] => .ok (addComponents tokens).reverse
        | '/' :: rest => readFrom (position + 3) true (addComponents tokens) rest budget
        | _ => .error ⟨position + 2, .splitComponent⟩
    | '*' :: rest => readFrom (position + 1) false (.run :: tokens) rest budget
    | '?' :: rest => readFrom (position + 1) false (.anyChar :: tokens) rest budget
    | '[' :: rest =>
      match readBracket rest with
      | none => .error ⟨position, .bracket⟩
      | some (token, after) =>
        readFrom (position + 1 + (rest.length - after.length)) false (token :: tokens) after budget
    | c :: rest => readFrom (position + 1) (c = '/') (.char c :: tokens) rest budget

/-- The units of a pattern. -/
def read (pattern : List Char) : Except Fault (List Token) := readFrom 0 true [] pattern pattern

/-- The outcome of a match: a failure is final where the text was too short for the rest of the pattern. -/
inductive Outcome where
  | matched
  | mismatch
  | tooShort
deriving DecidableEq, Repr

def inRanges (c : Char) (ranges : List CharRange) : Bool := ranges.any fun r => r.lo ≤ c && c ≤ r.hi

/-- Whether a unit for one character matches it. -/
def Token.accepts (c : Char) : Token → Bool
  | char d => c = d
  | anyChar => c ≠ '/'
  | oneOf ranges => c ≠ '/' && inRanges c ranges
  | noneOf ranges => c ≠ '/' && !inRanges c ranges
  | run | components => false

/-- Lets a wildcard take more and more of a text, where `rest` matches what comes after it. A run of components ends
only after a slash or at the end, a run of characters ends before a slash. -/
def stretch (whole : Bool) (rest : List Char → Outcome) : List Char → Outcome
  | [] => rest []
  | c :: cs =>
    if whole && c ≠ '/' then stretch whole rest cs
    else if !whole && c = '/' then .mismatch
    else match rest cs with
      | .mismatch => stretch whole rest cs
      | o => o

/-- Matches a text against the units of a pattern. -/
def matchTokens : List Token → List Char → Outcome
  | [], text => if text.isEmpty then .matched else .mismatch
  | .run :: ts, text =>
    match matchTokens ts text with
    | .mismatch => stretch false (matchTokens ts) text
    | o => o
  | .components :: ts, text =>
    match matchTokens ts text with
    | .mismatch => stretch true (matchTokens ts) text
    | o => o
  | _ :: _, [] => .tooShort
  | t :: ts, c :: cs => if t.accepts c then matchTokens ts cs else .mismatch

end PatternLint.Glob
