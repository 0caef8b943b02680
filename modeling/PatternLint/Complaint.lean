import PatternLint.Location
import PatternLint.Path.Basic
import PatternLint.Severity
/-!
# Complaints

What a rule has to say about one place of a file, and the order of complaints in a report: by the slashed text of
the path, then by line, column and rule.
-/
namespace PatternLint

structure Complaint where
  rule : String
  severity : Severity
  path : String
  span : Span
  message : String
  help : Option String
  location : Location
deriving DecidableEq, Repr

namespace Complaint

/-- The complaint on one line. -/
def line (c : Complaint) : String :=
  s!"{c.path}:{c.location.firstLine}:{c.location.column}: {c.severity.label} [{c.rule}] {c.message}"

/-- The order of two complaints in a report. -/
def order (a b : Complaint) : Ordering :=
  (compare (Path.slashed a.path) (Path.slashed b.path)).then
    ((compare a.location.firstLine b.location.firstLine).then
      ((compare a.location.column b.location.column).then (compare a.rule b.rule)))

end Complaint

end PatternLint
