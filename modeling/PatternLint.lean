import PatternLint.Command.Run
import PatternLint.Files.Memory
import PatternLint.Main
import PatternLint.Proofs.Capture.Agreement
import PatternLint.Proofs.Grammar.Correct
import PatternLint.Proofs.Grammar.Nesting
import PatternLint.Proofs.Grammar.Reentry
import PatternLint.Proofs.Report.Json
import PatternLint.Proofs.Scan.Cancellation
import PatternLint.Proofs.Scan.Independence
import PatternLint.Proofs.Scan.Origin
import PatternLint.Proofs.Grammar.Coverage
import PatternLint.Proofs.Grammar.Leftmost
import PatternLint.Proofs.Grammar.Verdict
import PatternLint.Proofs.Grammar.Blocks
import PatternLint.Proofs.Capture.Terminal
import PatternLint.Proofs.Location.Resolve
import PatternLint.Proofs.Scan.Positions
import PatternLint.Proofs.Report.Alignment
import PatternLint.Proofs.Report.Aggregate
import PatternLint.Proofs.Rule.Comments
import PatternLint.Proofs.Rule.Overrides
import PatternLint.Proofs.Scan.Single
import PatternLint.Proofs.Builtin.DebugPrint
import PatternLint.Proofs.Builtin.ConflictMarkers
import PatternLint.Proofs.Grammar.Regions
import PatternLint.Proofs.Grammar.Brackets
import PatternLint.Proofs.Builtin.PprintCalls
import PatternLint.Proofs.FileStore.History
import PatternLint.Proofs.Glob.Subtree
import PatternLint.Proofs.Report.Colours
import PatternLint.Proofs.Report.Compact
import PatternLint.Proofs.Grammar.SamePlace
import PatternLint.Proofs.Grammar.Loops
import PatternLint.Proofs.Grammar.Descent
import PatternLint.Proofs.Grammar.Slices
import PatternLint.Proofs.Grammar.Counted
