import PatternLint.Toml.Number
/-!
# TOML documents

A document is a list of lines: headers that open tables, and keys with values, which go into the table opened last.
Each key is set once. A table is opened by a header at most once, and one that was set by dotted keys or written in
braces is not opened again.
-/
namespace PatternLint.Toml

/-- Changes the value under a key: `change` gets the value if there is one, and refuses by giving none. -/
def alter (key : String) (change : Option Value → Option Value) : Entries → Option Entries
  | [] => (change none).map fun v => [(key, v)]
  | (k, v) :: entries =>
    if k = key then (change (some v)).map fun v => (k, v) :: entries
    else (alter key change entries).map ((k, v) :: ·)

/-- Follows a path from a table and changes the table at its end. Tables that are missing on the way are made. Of
repeated tables the last one is followed. Dotted keys do not enter a table that a header has opened, and nothing
enters one in braces. -/
def follow (dotted : Bool) (change : TableKind → Entries → Option Entries) :
    List String → TableKind → Entries → Option Entries
  | [], kind, entries => change kind entries
  | key :: path, _, entries =>
    let made := if dotted then TableKind.dotted else TableKind.implied
    alter key (fun
      | none => (follow dotted change path made []).map (.table made)
      | some (.table kind inner) =>
        if kind = .inline || (dotted && kind = .header) then none
        else (follow dotted change path kind inner).map (.table kind)
      | some (.tables last earlier) => (follow dotted change path .header last).map (.tables · earlier)
      | some _ => none) entries

/-- Sets a key below a table. The last table on the way has to come from dotted keys itself. -/
def assign (path : List String) (v : Value) (entries : Entries) : Option Entries :=
  match path.getLast? with
  | none => none
  | some key =>
    let tables := path.dropLast
    follow true (fun kind entries =>
      if tables ≠ [] && kind ≠ .dotted then none
      else alter key (fun old => if old.isSome then none else some v) entries) tables .header entries

/-- Opens the table under a header. -/
def openTable (path : List String) (entries : Entries) : Option Entries :=
  match path.getLast? with
  | none => none
  | some key =>
    follow false (fun _ entries => alter key (fun
      | none => some (.table .header [])
      | some (.table .implied inner) => some (.table .header inner)
      | some _ => none) entries) path.dropLast .header entries

/-- Opens one more of the tables under a header in double brackets. -/
def openElement (path : List String) (entries : Entries) : Option Entries :=
  match path.getLast? with
  | none => none
  | some key =>
    follow false (fun _ entries => alter key (fun
      | none => some (.tables [] [])
      | some (.tables last earlier) => some (.tables [] (last :: earlier))
      | some _ => none) entries) path.dropLast .header entries

/-- Reads the values of an array, last first, after its opening and after each comma. -/
def items (value : Reader Value) (read : List Value) (cs : List Char) :
    (budget : List Char) → Option (List Value × List Char)
  | [] => none
  | _ :: budget => do
    match ← skipLayout false cs with
    | ']' :: cs => some (read, cs)
    | cs =>
      let (v, cs) ← value cs
      match ← skipLayout false cs with
      | ',' :: cs => items value (v :: read) cs budget
      | ']' :: cs => some (v :: read, cs)
      | _ => none

/-- Reads a key, the equals sign and a value. -/
def pair (value : Reader Value) (cs : List Char) : Option ((List String × Value) × List Char) := do
  let (path, cs) ← key maxDepth cs
  let (v, cs) ← value (skipBlanks (← expect '=' cs))
  some ((path, v), cs)

/-- Reads the pairs of an inline table. -/
def pairs (value : Reader Value) (entries : Entries) (cs : List Char) :
    (budget : List Char) → Option (Entries × List Char)
  | [] => none
  | _ :: budget => do
    let ((path, v), cs) ← pair value cs
    let entries ← assign path v entries
    match skipBlanks cs with
    | ',' :: cs => pairs value entries cs budget
    | '\x7d' :: cs => some (entries, cs)
    | _ => none

/-- Reads a value that holds at most so many arrays and inline tables within one another. -/
def value : Nat → Reader Value
  | depth, cs =>
    match cs with
    | '"' :: _ | '\'' :: _ => (string cs).map fun (t, rest) => (.string (String.ofList t), rest)
    | '[' :: cs =>
      match depth with
      | 0 => none
      | depth + 1 => (items (value depth) [] cs cs).map fun (vs, rest) => (.array vs.reverse, rest)
    | '\x7b' :: cs =>
      match depth with
      | 0 => none
      | depth + 1 =>
        match skipBlanks cs with
        | '\x7d' :: rest => some (.table .inline [], rest)
        | cs => (pairs (value depth) [] cs cs).map fun (entries, rest) => (.table .inline entries, rest)
    | 't' :: 'r' :: 'u' :: 'e' :: cs => some (.boolean true, cs)
    | 'f' :: 'a' :: 'l' :: 's' :: 'e' :: cs => some (.boolean false, cs)
    | _ => datetime cs <|> float cs <|> integer cs

/-- Reads the lines of a document. `table` is the path of the table opened last and `root` holds what was read. -/
def lines (table : List String) (root : Entries) (cs : List Char) : (budget : List Char) → Option Entries
  | [] => some root
  | _ :: budget => do
    match skipBlanks cs with
    | [] => some root
    | '[' :: '[' :: cs =>
      let (path, cs) ← key maxDepth cs
      let cs ← lineEnd? (← expect ']' (← expect ']' cs))
      lines path (← openElement path root) cs budget
    | '[' :: cs =>
      let (path, cs) ← key maxDepth cs
      let cs ← lineEnd? (← expect ']' cs)
      lines path (← openTable path root) cs budget
    | cs =>
      match lineEnd? cs with
      | some cs => lines table root cs budget
      | none =>
        let ((path, v), cs) ← pair (value maxDepth) cs
        let cs ← lineEnd? cs
        lines table (← follow false (fun _ entries => assign path v entries) table .header root) cs budget

/-- Reads a document; a mark of the byte order at its beginning is skipped. -/
def parse (text : List Char) : Option Value :=
  let text := match text with
    | '\ufeff' :: text => text
    | text => text
  (lines [] [] text text).map (.table .header)

end PatternLint.Toml
