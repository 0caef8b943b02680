/-!
# Blanks, comments, strings and keys of TOML

Readers take the text from some place on and give what they read with the rest, or nothing if the text is not as
they expect.
-/
namespace PatternLint.Toml

/-- A reader of a piece of text. -/
abbrev Reader (α : Type) := List Char → Option (α × List Char)

def isBlank (c : Char) : Bool := c = ' ' || c = '\t'

/-- Skips blanks within a line. -/
def skipBlanks (cs : List Char) : List Char := cs.dropWhile isBlank

/-- A character that may stand in a comment or a string: a tab or one that is no control character. -/
def isPlain (c : Char) : Bool := c = '\t' || (' ' ≤ c && c ≠ '\x7f')

/-- Reads the end of a line. -/
def newline? : List Char → Option (List Char)
  | '\n' :: cs | '\r' :: '\n' :: cs => some cs
  | _ => none

/-- Skips what may stand between the values of an array: blanks, newlines and comments. -/
def skipLayout (inComment : Bool) : List Char → Option (List Char)
  | [] => some []
  | '\n' :: cs => skipLayout false cs
  | '\r' :: '\n' :: cs => skipLayout false cs
  | c :: cs =>
    if inComment then if isPlain c then skipLayout true cs else none
    else if isBlank c then skipLayout false cs
    else if c = '#' then skipLayout true cs
    else some (c :: cs)

/-- Reads the rest of a line: blanks, a comment and the end of the line or of the text. -/
def lineEnd? (cs : List Char) : Option (List Char) :=
  let cs := match skipBlanks cs with
    | '#' :: cs => cs.dropWhile isPlain
    | cs => cs
  if cs.isEmpty then some [] else newline? cs

def hexDigit? (c : Char) : Option Nat :=
  if c.isDigit then some (c.toNat - '0'.toNat)
  else if 'a' ≤ c && c ≤ 'f' then some (c.toNat - 'a'.toNat + 10)
  else if 'A' ≤ c && c ≤ 'F' then some (c.toNat - 'A'.toNat + 10)
  else none

/-- The character with a code in hexadecimal digits. -/
def codePoint? (digits : List Char) : Option Char := do
  let n := (← digits.mapM hexDigit?).foldl (fun n d => n * 16 + d) 0
  if n.isValidChar then some (Char.ofNat n) else none

/-- The character that a letter stands for after a backslash. -/
def escape? : Char → Option Char
  | 'b' => some '\x08'
  | 't' => some '\t'
  | 'n' => some '\n'
  | 'f' => some '\x0c'
  | 'r' => some '\r'
  | '"' => some '"'
  | '\\' => some '\\'
  | _ => none

/-- Reads a string in double quotes after its opening. -/
def basicString (text : List Char) : Reader (List Char)
  | [] => none
  | '"' :: cs => some (text.reverse, cs)
  | '\\' :: 'u' :: a :: b :: c :: d :: cs => do basicString ((← codePoint? [a, b, c, d]) :: text) cs
  | '\\' :: 'U' :: a :: b :: c :: d :: e :: f :: g :: h :: cs => do
    basicString ((← codePoint? [a, b, c, d, e, f, g, h]) :: text) cs
  | '\\' :: c :: cs => do basicString ((← escape? c) :: text) cs
  | c :: cs => if c ≠ '\\' && isPlain c then basicString (c :: text) cs else none

/-- Reads a string in single quotes after its opening. -/
def literalString (text : List Char) : Reader (List Char)
  | [] => none
  | '\'' :: cs => some (text.reverse, cs)
  | c :: cs => if isPlain c then literalString (c :: text) cs else none

/-- Reads a string in triple double quotes. Up to two quotes may stand before the closing ones. A backslash at the
end of a line takes the line end and all blanks and line ends after it away, which is when `trim` is set. -/
def longBasicString (trim : Bool) (text : List Char) : Reader (List Char)
  | [] => none
  | '"' :: '"' :: '"' :: '"' :: '"' :: cs => some (('"' :: '"' :: text).reverse, cs)
  | '"' :: '"' :: '"' :: '"' :: cs => some (('"' :: text).reverse, cs)
  | '"' :: '"' :: '"' :: cs => some (text.reverse, cs)
  | '\r' :: '\n' :: cs => longBasicString trim (if trim then text else '\n' :: text) cs
  | '\\' :: 'u' :: a :: b :: c :: d :: cs => do longBasicString false ((← codePoint? [a, b, c, d]) :: text) cs
  | '\\' :: 'U' :: a :: b :: c :: d :: e :: f :: g :: h :: cs => do
    longBasicString false ((← codePoint? [a, b, c, d, e, f, g, h]) :: text) cs
  | '\\' :: c :: cs =>
    match escape? c with
    | some c => longBasicString false (c :: text) cs
    | none => if (newline? (skipBlanks (c :: cs))).isSome then longBasicString true text cs else none
  | c :: cs =>
    if trim && (isBlank c || c = '\n') then longBasicString true text cs
    else if c ≠ '\\' && (isPlain c || c = '\n') then longBasicString false (c :: text) cs
    else none

/-- Reads a string in triple single quotes. -/
def longLiteralString (text : List Char) : Reader (List Char)
  | [] => none
  | '\'' :: '\'' :: '\'' :: '\'' :: '\'' :: cs => some (('\'' :: '\'' :: text).reverse, cs)
  | '\'' :: '\'' :: '\'' :: '\'' :: cs => some (('\'' :: text).reverse, cs)
  | '\'' :: '\'' :: '\'' :: cs => some (text.reverse, cs)
  | '\r' :: '\n' :: cs => longLiteralString ('\n' :: text) cs
  | c :: cs => if isPlain c || c = '\n' then longLiteralString (c :: text) cs else none

/-- Reads a string of any kind. A line end right after triple quotes is dropped. -/
def string : Reader (List Char)
  | '"' :: '"' :: '"' :: cs => longBasicString false [] ((newline? cs).getD cs)
  | '"' :: cs => basicString [] cs
  | '\'' :: '\'' :: '\'' :: cs => longLiteralString [] ((newline? cs).getD cs)
  | '\'' :: cs => literalString [] cs
  | _ => none

/-- A character of a key without quotes. -/
def isBare (c : Char) : Bool := c.isAlphanum || c = '_' || c = '-'

/-- Reads one part of a key. -/
def keyPart : Reader String
  | '"' :: cs => (basicString [] cs).map fun (t, rest) => (String.ofList t, rest)
  | '\'' :: cs => (literalString [] cs).map fun (t, rest) => (String.ofList t, rest)
  | cs => if (cs.takeWhile isBare).isEmpty then none
    else some (String.ofList (cs.takeWhile isBare), cs.dropWhile isBare)

/-- Reads a key of at most so many parts, with dots between them and blanks around them. -/
def key : Nat → Reader (List String)
  | 0, _ => none
  | parts + 1, cs => do
    let (part, cs) ← keyPart (skipBlanks cs)
    match skipBlanks cs with
    | '.' :: cs =>
      let (path, cs) ← key parts cs
      some (part :: path, cs)
    | cs => some ([part], cs)

/-- The most parts of a key, and the most arrays and inline tables within one another. -/
def maxDepth : Nat := 79

end PatternLint.Toml
