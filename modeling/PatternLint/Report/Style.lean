import PatternLint.Severity
/-!
# Colours of the text report

A style is a list of terminal codes, written before a text and taken back after it. The plain style writes none.
-/
namespace PatternLint

/-- The codes of a style, in the order in which they are written. -/
abbrev Style := List Nat

/-- The sequence that sets a terminal code. -/
def escapeCode (code : Nat) : String := s!"\x1b[{code}m"

/-- A text in a style. -/
def Style.paint (style : Style) (text : String) : String :=
  if style.isEmpty then text else String.join (style.map escapeCode) ++ text ++ escapeCode 0

/-- The styles of the parts of a report. -/
structure Theme where
  warning : Style
  critical : Style
  rule : Style
  path : Style
  gutter : Style
  caret : Style
  help : Style
  success : Style
  summary : Style
deriving DecidableEq, Repr

namespace Theme

def plain : Theme := ⟨[], [], [], [], [], [], [], [], []⟩

/-- Warnings are yellow, critical complaints red, both bold. -/
def colored : Theme where
  warning := [33, 1]
  critical := [31, 1]
  rule := [1]
  path := [35]
  gutter := [2]
  caret := [36]
  help := [34]
  success := [32]
  summary := [1]

def severity (t : Theme) : Severity → Style
  | .warning => t.warning
  | .critical => t.critical

/-- The colours of a report: none if they are refused, else as set, else as the terminal has them. -/
def choose (refused : Bool) (set : Option Bool) (terminal : Bool) : Theme :=
  if !refused && set.getD terminal then colored else plain

end Theme

end PatternLint
