import PatternLint.Json.Printer
import PatternLint.ScanResult
/-!
# The JSON report

A scan result as a JSON value, and back. Help is left out where there is none, while a missing caret is written as
null. Reading takes keys in any order and skips unknown ones.
-/
namespace PatternLint

open Json

def optionJson (s : Option String) : Json := s.elim .null .string

/-! ## Writing -/

def Span.toJson (s : Span) : Json := .object [("start", .number s.start), ("end", .number s.stop)]

def SourceLine.toJson (l : SourceLine) : Json := .object [("number", .number l.number), ("text", .string l.text)]

def Location.toJson (l : Location) : Json :=
  .object [("first_line", .number l.firstLine), ("last_line", .number l.lastLine), ("column", .number l.column),
    ("lines", .array (l.lines.map SourceLine.toJson)), ("caret", optionJson l.caret)]

def Complaint.toJson (c : Complaint) : Json :=
  .object ([("rule", .string c.rule), ("severity", .string c.severity.name), ("path", .string c.path),
    ("span", c.span.toJson), ("message", .string c.message)] ++
    c.help.toList.map (fun help => ("help", .string help)) ++
    [("location", c.location.toJson)])

def ScanResult.toJson (r : ScanResult) : Json :=
  .object [("complaints", .array (r.complaints.map Complaint.toJson)), ("total", .number r.total),
    ("warnings", .number r.warnings), ("criticals", .number r.criticals),
    ("files_scanned", .number r.filesScanned), ("interrupted", .bool r.interrupted)]

/-! ## Reading -/

def Span.ofJson? (v : Json) : Option Span := do
  let get ← v.record? ["start", "end"] 0
  some ⟨← (← get "start").natural?, ← (← get "end").natural?⟩

def SourceLine.ofJson? (v : Json) : Option SourceLine := do
  let get ← v.record? ["number", "text"] 0
  some ⟨← (← get "number").natural?, ← (← get "text").string?⟩

def Location.ofJson? (v : Json) : Option Location := do
  let get ← v.record? ["first_line", "last_line", "column", "lines", "caret"] 0
  some {
    firstLine := ← (← get "first_line").natural?
    lastLine := ← (← get "last_line").natural?
    column := ← (← get "column").natural?
    lines := ← (← get "lines").list? SourceLine.ofJson?
    caret := ← optional? string? (get "caret") }

/-- A severity is its name in lower case, also as the one key of an object without a value. -/
def Severity.ofJson? : Json → Option Severity
  | .string s => Severity.ofName? s
  | .object [(s, .null)] => Severity.ofName? s
  | _ => none

def Complaint.ofJson? (v : Json) : Option Complaint := do
  let get ← v.record? ["rule", "severity", "path", "span", "message", "help", "location"] 0
  some {
    rule := ← (← get "rule").string?
    severity := ← Severity.ofJson? (← get "severity")
    path := ← (← get "path").string?
    span := ← Span.ofJson? (← get "span")
    message := ← (← get "message").string?
    help := ← optional? string? (get "help")
    location := ← Location.ofJson? (← get "location") }

def ScanResult.ofJson? (v : Json) : Option ScanResult := do
  let get ← v.record? ["complaints", "total", "warnings", "criticals", "files_scanned", "interrupted"] 1
  some {
    complaints := ← (← get "complaints").list? Complaint.ofJson?
    total := ← (← get "total").natural?
    warnings := ← (← get "warnings").natural?
    criticals := ← (← get "criticals").natural?
    filesScanned := ← (← get "files_scanned").natural?
    interrupted := ← (get "interrupted").elim (some false) bool? }

end PatternLint
