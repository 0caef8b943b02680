import PatternLint.ScanResult
/-!
# The outcome of a run

A run ends with a number: zero unless a critical complaint was found or something failed.
-/
namespace PatternLint

inductive ExitStatus where
  | clean
  | critical
  /-- The rules or the settings could not be used. -/
  | loadFailure
  /-- The files could not be scanned. -/
  | scanFailure
deriving DecidableEq, Repr

namespace ExitStatus

def code : ExitStatus → Nat
  | clean => 0
  | critical => 1
  | loadFailure => 2
  | scanFailure => 3

/-- The outcome of a scan that came to its end. -/
def ofResult (r : ScanResult) : ExitStatus := if r.hasCriticals then critical else clean

end ExitStatus

end PatternLint
