import PatternLint.Json.Basic
/-!
# JSON text

Values are written over several lines with two blanks for each level; empty arrays and objects stay on one line. In
strings the quote, the backslash and control characters are escaped.
-/
namespace PatternLint.Json

def hexDigit (n : Nat) : Char := (Nat.toDigits 16 n).headD '0'

/-- A character within a string. -/
def escapeChar (c : Char) : List Char :=
  match c with
  | '"' => ['\\', '"']
  | '\\' => ['\\', '\\']
  | '\n' => ['\\', 'n']
  | '\r' => ['\\', 'r']
  | '\t' => ['\\', 't']
  | '\x08' => ['\\', 'b']
  | '\x0c' => ['\\', 'f']
  | c =>
    if c < ' ' then ['\\', 'u', '0', '0', hexDigit (c.toNat / 16), hexDigit (c.toNat % 16)] else [c]

/-- A string in quotes. -/
def quote (s : String) : String := "\"" ++ String.ofList (s.toList.flatMap escapeChar) ++ "\""

/-- Parts on lines of their own between brackets. -/
def enclose (opening closing : String) (indent : String) (parts : List String) : String :=
  if parts.isEmpty then opening ++ closing
  else
    let inner := indent ++ "  "
    opening ++ "\n" ++ ",\n".intercalate (parts.map (inner ++ ·)) ++ "\n" ++ indent ++ closing

mutual

/-- A value whose first line is already indented. -/
def printAt (indent : String) : Json → String
  | null => "null"
  | bool b => if b then "true" else "false"
  | number n => toString n
  | fraction => "null"
  | string s => quote s
  | array items => enclose "[" "]" indent (printItems (indent ++ "  ") items)
  | object entries => enclose "\x7b" "\x7d" indent (printEntries (indent ++ "  ") entries)

def printItems (indent : String) : List Json → List String
  | [] => []
  | v :: vs => printAt indent v :: printItems indent vs

def printEntries (indent : String) : List (String × Json) → List String
  | [] => []
  | (k, v) :: es => (quote k ++ ": " ++ printAt indent v) :: printEntries indent es

end

/-- The text of a value. -/
def print (v : Json) : String := printAt "" v

end PatternLint.Json
