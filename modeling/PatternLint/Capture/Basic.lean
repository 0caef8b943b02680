import PatternLint.Grammar.Search
/-!
# Captures

What a rule looks for in a text: a pattern with options, or a grammar. Both are made ready once and then give all
matches in a text.
-/
namespace PatternLint

/-- How a pattern is read. -/
structure PatternOptions where
  caseInsensitive : Bool := false
  multiLine : Bool := false
  dotMatchesNewLine : Bool := false
  ignoreWhitespace : Bool := false
deriving DecidableEq, Repr

/-- The flags that options start a pattern with. -/
def PatternOptions.flags (o : PatternOptions) : Regex.Flags :=
  { ignoreCase := o.caseInsensitive, multiLine := o.multiLine, dotAll := o.dotMatchesNewLine
    verbose := o.ignoreWhitespace }

/-- What a rule looks for. -/
inductive Capture where
  | pattern (source : String) (options : PatternOptions)
  | grammar (g : Grammar)
deriving DecidableEq, Repr

/-- A capture made ready to run. -/
inductive Finder where
  | pattern (p : Regex.Program)
  | grammar (m : Matcher)

namespace Finder

/-- The word for the kind of capture. -/
def kind : Finder → String
  | pattern _ => "regex"
  | grammar _ => "grammar"

/-- All matches in a text. A pattern gives none up. -/
def findAll (f : Finder) (text : List Char) : Matches :=
  match f with
  | pattern p => ⟨(p.findAll text).map fun m => ⟨m.start, m.stop.offset⟩, []⟩
  | grammar m => m.findAll Matcher.maxNesting text

end Finder

/-- A capture made ready to run, or the reason why it cannot be. -/
def Capture.compile : Capture → Except CaptureError Finder
  | .pattern source options =>
    if source.isEmpty then .error .empty
    else match Regex.compile options.flags source with
      | .ok p => .ok (.pattern p)
      | .error fault => .error (.regex fault)
  | .grammar g => .grammar <$> g.compile

end PatternLint
