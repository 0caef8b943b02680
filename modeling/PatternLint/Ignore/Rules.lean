import PatternLint.Ignore.Pattern
import PatternLint.Text.Blank
import PatternLint.Text.Utf8
/-!
# Ignore files

Each line of an ignore file holds a pattern. One with a slash in it is matched against the path from the directory
of the file on, any other against a name at any depth. A slash at its end makes it match directories only, and an
exclamation mark before it takes paths back that an earlier pattern ignores: the last pattern that matches decides.
-/
namespace PatternLint.Ignore

/-- One pattern of an ignore file. -/
structure Rule where
  /-- Whether a match keeps a path instead of ignoring it. -/
  keeps : Bool
  directoriesOnly : Bool
  program : Regex.Program

/-- What is said of a path. -/
inductive Verdict where
  | silent
  | ignored
  | kept
deriving DecidableEq, Repr

/-- The first verdict that is not silent. -/
def Verdict.orElse : Verdict → Verdict → Verdict
  | silent, v => v
  | v, _ => v

/-- Drops blanks at the end of a line, unless the last one is escaped. -/
def trimLine (line : List Char) : List Char :=
  match line.reverse with
  | ' ' :: '\\' :: _ => line
  | cs => (cs.dropWhile isBlank).reverse

/-- The pattern that is matched: one without a slash matches at any depth, and two stars at the end match only what
lies inside. -/
def fullPattern (anchored : Bool) (pattern : List Char) : List Char :=
  let deep := "**/".toList.isPrefixOf pattern || pattern = "**".toList
  let pattern := if anchored || pattern.contains '/' || deep then pattern else "**/".toList ++ pattern
  if "/**".toList.isSuffixOf pattern then pattern ++ "/*".toList else pattern

/-- The rule of a line; comments, empty lines and malformed patterns have none. -/
def parseLine? (line : List Char) : Option Rule := do
  if line.head? = some '#' then none
  let line := trimLine line
  if line.isEmpty then none
  let (keeps, anchored, pattern) := match line with
    | '\\' :: '!' :: cs => (false, false, '!' :: cs)
    | '\\' :: '#' :: cs => (false, false, '#' :: cs)
    | '!' :: '/' :: cs => (true, true, cs)
    | '!' :: cs => (true, false, cs)
    | '/' :: cs => (false, true, cs)
    | cs => (false, false, cs)
  let (directoriesOnly, pattern) := match pattern.reverse with
    | '/' :: '\\' :: cs => (true, cs.reverse)
    | '/' :: cs => (true, cs.reverse)
    | _ => (false, pattern)
  some ⟨keeps, directoriesOnly, compile (← read? (fullPattern anchored pattern))⟩

/-- The lines of a file, up to the first that is not UTF-8. A carriage return before the end of a line belongs to it. -/
def lines (bytes : List UInt8) : List (List Char) := go [] bytes
where
  go (line : List UInt8) : List UInt8 → List (List Char)
    | [] => (text? line).toList
    | b :: bs =>
      if b = 10 then
        match text? (if line.head? = some 13 then line.drop 1 else line) with
        | some l => l :: go [] bs
        | none => []
      else go (b :: line) bs
  text? (line : List UInt8) : Option (List Char) := (Utf8.decode line.reverse).toOption

/-- The rules of an ignore file. A mark of the byte order at its beginning is skipped. -/
def parse (bytes : List UInt8) : List Rule :=
  match lines bytes with
  | [] => []
  | first :: rest => (first.dropWhile (· = '\ufeff') :: rest).filterMap parseLine?

/-- What rules say of a path from the directory of their file on. -/
def verdict (rules : List Rule) (path : String) (isDirectory : Bool) : Verdict :=
  if rules.isEmpty then .silent
  else
    let text := byteChars path
    match rules.reverse.find? fun r =>
      (!r.directoriesOnly || isDirectory) && (r.program.find? (.start text)).isSome with
    | none => .silent
    | some r => if r.keeps then .kept else .ignored

end PatternLint.Ignore
