/-!
# Severities

How bad a complaint is. Severities are ordered, and only critical ones make a run fail.
-/
namespace PatternLint

/-- How bad a complaint is. -/
inductive Severity where
  | warning
  | critical
deriving DecidableEq, Repr

namespace Severity

/-- The name in lower case. -/
def name : Severity → String
  | warning => "warning"
  | critical => "critical"

/-- The name in upper case, for reports. -/
def label : Severity → String
  | warning => "WARNING"
  | critical => "CRITICAL"

/-- Reads a name in lower case. -/
def ofName? : String → Option Severity
  | "warning" => some warning
  | "critical" => some critical
  | _ => none

/-- Reads a name in any case of its letters. -/
def parse? (s : String) : Option Severity := ofName? (String.ofList (s.toList.map Char.toLower))

/-- The worse of two severities. -/
def max : Severity → Severity → Severity
  | warning, warning => warning
  | _, _ => critical

end Severity

end PatternLint
