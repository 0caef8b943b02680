import PatternLint.Complaint
/-!
# Scan results

The complaints of a scan in the order of the report, with their numbers.
-/
namespace PatternLint

structure ScanResult where
  complaints : List Complaint
  total : Nat
  warnings : Nat
  criticals : Nat
  filesScanned : Nat := 0
  /-- Whether the scan was stopped before it was done. -/
  interrupted : Bool := false
deriving DecidableEq, Repr

namespace ScanResult

def hasCriticals (r : ScanResult) : Bool := 0 < r.criticals

def isClean (r : ScanResult) : Bool := r.total = 0

/-- Sorts complaints and counts them. Complaints that the order does not tell apart stay as they were given, and
none is dropped. -/
def aggregate (complaints : List Complaint) : ScanResult :=
  let sorted := complaints.mergeSort fun a b => (a.order b).isLE
  let warnings := sorted.countP (·.severity = .warning)
  { complaints := sorted, total := sorted.length, warnings, criticals := sorted.length - warnings }

end ScanResult

end PatternLint
