import PatternLint.FileStore
/-!
# Events

What a run has to tell besides its result.
-/
namespace PatternLint

inductive Event where
  /-- The settings name a rule that nobody defined. -/
  | unknownRule (rule : String)
  | rulesLoaded (count : Nat)
  | filesFound (count : Nat)
  | scanStarted (files rules : Nat)
  | fileSkipped (path : String) (reason : ReadError)
  /-- A grammar was followed no further than the nesting limit, and a match at the offset may be missed. -/
  | attemptAbandoned (limit offset : Nat) (path rule : String)
  | scanInterrupted
  | scanCompleted (complaints files : Nat)
deriving DecidableEq, Repr

/-- The event on one line. -/
def Event.line : Event → String
  | unknownRule rule => s!"WARN: configuration refers to an unknown complainer rule={rule}"
  | rulesLoaded count => s!"INFO: complainers loaded count={count}"
  | filesFound count => s!"INFO: Found {count} candidate files"
  | scanStarted files rules => s!"INFO: Scanning {files} files with {rules} complainers"
  | fileSkipped path reason => s!"WARN: Skipping {path}: {reason.message}"
  | attemptAbandoned limit offset path rule =>
    "WARN: grammar nesting limit reached; a possible match was not checked " ++
      s!"limit={limit} offset={offset} path={path} rule={rule}"
  | scanInterrupted => "WARN: Scan interrupted; reporting partial results"
  | scanCompleted complaints files => s!"INFO: Scan complete: {complaints} complaints in {files} files"

end PatternLint
