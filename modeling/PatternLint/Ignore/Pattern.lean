import PatternLint.Regex.Search
/-!
# Patterns of ignore files

The globs in files that name what is to be ignored. A star or a question mark does not match a slash, two stars that
fill a whole component match any run of components, and braces hold alternatives. Patterns are matched byte by byte:
a character of several bytes counts as several.
-/
namespace PatternLint.Ignore

/-- A unit of a pattern. -/
inductive Token where
  | char (c : Char)
  | anyByte
  | run
  /-- Two stars at the beginning, with the slash after them. -/
  | leading
  /-- Two stars at the end, with the slash before them. -/
  | trailing
  /-- Two stars between slashes. -/
  | between
  | oneOf (negated : Bool) (ranges : List (Char × Char))
  | either (branches : List (List Token))

/-- What was read of a pattern: the branch under way and the branches before it in its braces, both last first, and
the same for each opening brace around them. -/
structure Reading where
  tokens : List Token := []
  branches : List (List Token) := []
  outer : List (List Token × List (List Token)) := []
  /-- Whether a bracket was found that is not closed; from there on brackets stand for themselves. -/
  plainBrackets : Bool := false

namespace Reading

def push (r : Reading) (t : Token) : Reading := { r with tokens := t :: r.tokens }

def openBrace (r : Reading) : Reading :=
  { r with tokens := [], branches := [], outer := (r.tokens, r.branches) :: r.outer }

/-- A comma begins a new branch within braces and stands for itself elsewhere. -/
def comma (r : Reading) : Reading :=
  if r.outer.isEmpty then r.push (.char ',') else { r with tokens := [], branches := r.tokens :: r.branches }

def closeBrace? (r : Reading) : Option Reading :=
  match r.outer with
  | [] => none
  | (tokens, branches) :: outer =>
    let all := (r.tokens :: r.branches).reverse.map List.reverse
    some { r with tokens := .either all :: tokens, branches, outer }

/-- Puts two stars in the place of the slash before them. -/
def pushStars (r : Reading) (atEnd : Bool) : Reading :=
  match r.tokens with
  | .leading :: _ | .trailing :: _ => r
  | _ :: tokens => { r with tokens := (if atEnd then .trailing else .between) :: tokens }
  | [] => r

end Reading

/-- What stands after an opening bracket. -/
inductive Brackets where
  /-- Ranges, last first, and what follows the closing bracket. -/
  | closed (ranges : List (Char × Char)) (rest : List Char)
  /-- No closing bracket follows. -/
  | unclosed
  /-- A range ends before it begins. -/
  | reversed

/-- Reads the inside of brackets after their opening. `first` says that no character was read yet, so that a closing
bracket or a dash stands for itself; `inRange` says that a dash was read, so that the next character ends a range. -/
def readRanges (first : Bool) (inRange : Bool) (ranges : List (Char × Char)) : List Char → Brackets
  | [] => .unclosed
  | c :: cs =>
    if c = ']' && !first then .closed (if inRange then ('-', '-') :: ranges else ranges) cs
    else if c = '-' && !first && !inRange then readRanges false true ranges cs
    else if inRange then
      match ranges with
      | (lo, _) :: ranges => if c < lo then .reversed else readRanges false false ((lo, c) :: ranges) cs
      | [] => .reversed
    else readRanges false false ((c, c) :: ranges) cs

/-- Reads a pattern. `before` is the character before the place; each round reads a character at least, so the
pattern is enough `budget`. -/
def readFrom (before : Option Char) (r : Reading) (cs : List Char) : (budget : List Char) → Option (List Token)
  | [] => if r.outer.isEmpty then some r.tokens.reverse else none
  | _ :: budget =>
    match cs with
    | [] => if r.outer.isEmpty then some r.tokens.reverse else none
    | '*' :: '*' :: rest =>
      let two := (r.push .run).push .run
      if r.tokens.isEmpty then
        match rest with
        | [] => readFrom (some '*') (r.push .leading) [] budget
        | '/' :: rest => readFrom (some '/') (r.push .leading) rest budget
        | rest => readFrom (some '*') two rest budget
      else if before ≠ some '/' && (r.outer.isEmpty || (before ≠ some ',' && before ≠ some '\x7b')) then
        readFrom (some '*') two rest budget
      else match rest with
        | [] => readFrom (some '*') (r.pushStars true) [] budget
        | '/' :: rest => readFrom (some '/') (r.pushStars false) rest budget
        | c :: rest =>
          if !r.outer.isEmpty && (c = ',' || c = '\x7d') then
            readFrom (some '*') (r.pushStars true) (c :: rest) budget
          else readFrom (some '*') two (c :: rest) budget
    | '*' :: rest => readFrom (some '*') (r.push .run) rest budget
    | '?' :: rest => readFrom (some '?') (r.push .anyByte) rest budget
    | '\\' :: c :: rest => readFrom (some c) (r.push (.char c)) rest budget
    | ['\\'] => none
    | '[' :: rest =>
      if r.plainBrackets then readFrom (some '[') (r.push (.char '[')) rest budget else
      let (negated, inside) := match rest with
        | '!' :: rest | '^' :: rest => (true, rest)
        | rest => (false, rest)
      match readRanges true false [] inside with
      | .reversed => none
      | .unclosed => readFrom (some '[') { r.push (.char '[') with plainBrackets := true } rest budget
      | .closed ranges rest => readFrom (some ']') (r.push (.oneOf negated ranges.reverse)) rest budget
    | '\x7b' :: rest => readFrom (some '\x7b') r.openBrace rest budget
    | '\x7d' :: rest =>
      match r.closeBrace? with
      | none => none
      | some r => readFrom (some '\x7d') r rest budget
    | ',' :: rest => readFrom (some ',') r.comma rest budget
    | c :: rest => readFrom (some c) (r.push (.char c)) rest budget

/-- The units of a pattern, unless it is malformed. -/
def read? (pattern : List Char) : Option (List Token) := readFrom none {} pattern pattern

/-! ## Matching -/

/-- A text as its bytes, each a character of its own. -/
def byteChars (s : String) : List Char := s.toUTF8.toList.map fun b => Char.ofNat b.toNat

/-- The bytes of a character. -/
def charBytes (c : Char) : List Nat := (String.singleton c).toUTF8.toList.map (·.toNat)

def anySet : CharSet := .range 0 255

def slashSet : CharSet := .singleton '/'

/-- The set that a range in brackets stands for: the bytes of its ends, of which the neighbours span a range. -/
def rangeBytes (r : Char × Char) : List (Nat × Nat) :=
  let lo := charBytes r.1
  let hi := charBytes r.2
  if r.1 = r.2 then lo.map fun b => (b, b)
  else
    let ends := (lo.dropLast ++ hi.drop 1).map fun b => (b, b)
    (lo.getLastD 0, hi.headD 0) :: ends

def slash : Regex := .literal ['/']

def anyRun : Regex := .times (.set anySet true) 0 none true

mutual

/-- The expression of a unit. Braces stand for nothing if all their branches are empty. -/
def Token.regex? : Token → Option Regex
  | .char c => some (.literal ((charBytes c).map Char.ofNat))
  | .anyByte => some (.set (anySet.diff slashSet) true)
  | .run => some (.times (.set (anySet.diff slashSet) true) 0 none true)
  | .leading => some (.choice [.times slash 0 (some 1) true, .seq anyRun slash])
  | .trailing => some (.seq slash anyRun)
  | .between => some (.choice [slash, .concat [slash, anyRun, slash]])
  | .oneOf negated ranges =>
    let set := CharSet.ofRanges (ranges.flatMap rangeBytes)
    some (.ofSet (if negated then anySet.diff set else set) true)
  | .either branches =>
    match branchRegexes branches with
    | [] => none
    | rs => some (.choice rs)

/-- The expressions of units that follow one another. -/
def tokenRegexes : List Token → List Regex
  | [] => []
  | t :: ts =>
    match t.regex? with
    | none => tokenRegexes ts
    | some r => r :: tokenRegexes ts

/-- The expressions of branches; branches that stand for nothing are left out. -/
def branchRegexes : List (List Token) → List Regex
  | [] => []
  | b :: bs =>
    match tokenRegexes b with
    | [] => branchRegexes bs
    | rs => .concat rs :: branchRegexes bs

end

/-- The program that matches a whole path; two stars alone match every path. -/
def compile (tokens : List Token) : Regex.Program :=
  let inner := match tokens with
    | [.leading] => anyRun
    | tokens => .concat (tokenRegexes tokens)
  (Regex.concat [.assertion .textStart, inner, .assertion .textEnd]).program

end PatternLint.Ignore
