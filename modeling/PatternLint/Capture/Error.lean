import PatternLint.Regex.Syntax
/-!
# Refused captures

The reasons why the pattern or grammar of a rule cannot be used, and their texts.
-/
namespace PatternLint

/-- Why a capture is refused. -/
inductive CaptureError where
  /-- The pattern has no text. -/
  | empty
  | regex (fault : Regex.Fault)
  /-- A terminal of a grammar rule is not a pattern. -/
  | terminal (rule pattern : String) (fault : Regex.Fault)
  | undefinedRule (rule target : String)
  | leftRecursion (rule : String)
deriving DecidableEq, Repr

/-- The text of a refusal. -/
def CaptureError.message : CaptureError → String
  | empty => "capture pattern is empty"
  | regex _ => "invalid regex"
  | terminal rule pattern _ => s!"grammar rule `{rule}`: invalid regex terminal `{pattern}`"
  | undefinedRule rule target => s!"grammar rule `{rule}` references undefined rule `{target}`"
  | leftRecursion rule => s!"grammar rule `{rule}` is left-recursive"

end PatternLint
