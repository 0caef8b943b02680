import PatternLint.Complaint
/-!
# From matches to complaints

A match of a rule becomes one complaint, unless the rule has a hook. A hook sees the match and says which complaints
to make of it, or fails. What it says is checked: every span has to lie in the file. A severity set for the rule
holds for all complaints under its name, whatever the hook gave them.
-/
namespace PatternLint

/-- What complaints of a rule say. -/
structure RuleInfo where
  name : String
  description : String
  /-- The severity that the rule was defined with. -/
  ownSeverity : Severity
  /-- The severity that the settings put in its place. -/
  setSeverity : Option Severity := none
  help : Option String := none
deriving DecidableEq, Repr

/-- The severity of a rule's complaints. -/
def RuleInfo.severity (r : RuleInfo) : Severity := r.setSeverity.getD r.ownSeverity

/-- One match of a rule in a file. -/
structure Match where
  rule : RuleInfo
  path : String
  text : List Char
  span : Span
deriving DecidableEq, Repr

namespace Match

/-- The lines and the column of the match. -/
def location (m : Match) : Location := resolve m.text m.span

/-- The complaint that a match makes by itself. -/
def complaint (m : Match) : Complaint where
  rule := m.rule.name
  severity := m.rule.severity
  path := m.path
  span := m.span
  message := m.rule.description
  help := m.rule.help
  location := m.location

/-- The matched text; a span that does not fit the text has none. -/
def matched (m : Match) : List Char := (m.span.slice? m.text).getD []

/-- The text before the match on its line. -/
def lineStart (m : Match) : List Char := lastPiece (((cutBytes? m.span.start m.text).map (·.1)).getD [])

end Match

/-- Says which complaints to make of a match. -/
abbrev Hook := Match → Except String (List Complaint)

/-- Whether a text holds another one. -/
def occursIn (part : List Char) : List Char → Bool
  | [] => part.isEmpty
  | c :: cs => part.isPrefixOf (c :: cs) || occursIn part cs

/-- Drops matches that have the marker before them on their line. -/
def skipCommented (marker : String) : Hook := fun m =>
  if occursIn marker.toList m.lineStart then .ok [] else .ok [m.complaint]

/-- What is said of a complaint whose span leaves the file. -/
def strayText (span : Span) (length : Nat) : String :=
  s!"hook emitted span {span.start}..{span.stop} outside a file of {length} bytes"

/-- Checks a complaint of a hook and gives it the severity set for the rule. -/
def passOn (m : Match) (c : Complaint) : Except String Complaint :=
  let length := byteLength m.text
  if !c.span.fits length then .error (strayText c.span length)
  else .ok (match m.rule.setSeverity with
    | some s => if c.rule = m.rule.name then { c with severity := s } else c
    | none => c)

/-- The complaints of a match. -/
def Match.build (m : Match) (hook : Option Hook) : Except String (List Complaint) :=
  match hook with
  | none => .ok [m.complaint]
  | some hook => do (← hook m).mapM (passOn m)

end PatternLint
