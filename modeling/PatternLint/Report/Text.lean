import PatternLint.Report.Status
import PatternLint.Report.Style
/-!
# The text report

Each complaint is a block of lines: what it says, where, the source lines with their numbers, the carets and the
help. After the blocks comes a line with the numbers of complaints, or a friendly one if there are none.
-/
namespace PatternLint.Report

def successText : String := "No complaints. Enjoy the rest of your day!"

def interruptedText : String := "Scan interrupted; complaints above are partial."

/-- The line with the numbers of complaints. -/
def summaryLine (r : ScanResult) : String :=
  s!"{r.total} Complaints found: {r.warnings} Warnings, {r.criticals} Critical."

/-- A text with blanks before it that bring it to a width. -/
def alignRight (width : Nat) (s : String) : String := String.ofList (List.replicate (width - s.length) ' ') ++ s

/-- A text with blanks after it that bring it to a width. -/
def alignLeft (width : Nat) (s : String) : String := s ++ String.ofList (List.replicate (width - s.length) ' ')

/-- The margin of a row with its label. -/
def gutter (t : Theme) (label : String) : String := t.gutter.paint (alignRight 6 label ++ "|")

/-- The row of a source line. -/
def lineRow (t : Theme) (l : SourceLine) : String := gutter t (toString l.number) ++ " " ++ l.text

/-- The rows of source lines, with a mark where line numbers are left out. -/
def lineRows (t : Theme) : List SourceLine → List String
  | [] => []
  | [l] => [lineRow t l]
  | l :: m :: ls =>
    let rows := lineRows t (m :: ls)
    if l.number + 1 < m.number then lineRow t l :: gutter t "..." :: rows else lineRow t l :: rows

/-- The rows of a complaint. -/
def complaintRows (t : Theme) (c : Complaint) : List String :=
  let severity := (t.severity c.severity).paint c.severity.label
  let place := t.path.paint s!"{c.path}:{c.location.firstLine}:{c.location.column}"
  let carets := c.location.caret.toList.map fun caret => gutter t "" ++ " " ++ t.caret.paint caret
  let help := c.help.toList.map fun help => "  " ++ t.help.paint ("= help: " ++ help)
  [severity ++ " - " ++ t.rule.paint c.rule ++ ": " ++ c.message, " --> " ++ place] ++
    lineRows t c.location.lines ++ carets ++ help

def complaintBlock (t : Theme) (c : Complaint) : String := "\n".intercalate (complaintRows t c)

/-- The last block of a report. -/
def closing (t : Theme) (r : ScanResult) : String :=
  if r.isClean then t.success.paint successText else t.summary.paint (summaryLine r)

/-- The text report. -/
def render (t : Theme) (r : ScanResult) : String :=
  let text := "\n\n".intercalate (r.complaints.map (complaintBlock t) ++ [closing t r])
  if r.interrupted then text ++ "\n" ++ interruptedText else text

/-- The report with one line for each complaint and one for their numbers. -/
def compact (r : ScanResult) : String :=
  String.join (r.complaints.map fun c => c.line ++ "\n") ++ summaryLine r

end PatternLint.Report

namespace PatternLint

/-- A text report, and the number that a run with this report ends with. -/
structure Report where
  text : String
  exitCode : Nat
deriving DecidableEq, Repr

/-- The text report of a result. -/
def Report.ofResult (t : Theme) (r : ScanResult) : Report := ⟨Report.render t r, (ExitStatus.ofResult r).code⟩

end PatternLint
