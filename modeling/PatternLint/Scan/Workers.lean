import PatternLint.Scan.Basic
/-!
# Scanning with several workers

The scan of a file is made in steps: look whether the scan is cancelled, read the file, run one rule after the other
and look again before each of them but the first. Workers make these steps for all files of a plan at the same time,
and a schedule says whose step comes next and when the scan is cancelled. A single worker takes the files in the order
of the plan. When the schedule has run out, the workers finish what is left.

A hook that fails settles what the scan comes to, so no step is made after it.
-/
namespace PatternLint

/-- What can be seen of a step from outside. -/
inductive Signal where
  /-- A worker looked whether the scan is cancelled. -/
  | polled (cancelled : Bool)
  | read (path : String)
deriving DecidableEq, Repr

/-- How far the scan of a file has come. -/
inductive Progress where
  | waiting
  /-- The scan was not cancelled, and the file is to be read next. -/
  | begun
  | running (text : List Char) (ran : List RuleRun) (left : List Rule)
  | done (run : FileRun)

namespace Progress

/-- The next step in the scan of a file, and what is seen of it. -/
def step (source : FileSource) (t : Task) (cancelled : Bool) : Progress → Progress × List Signal
  | waiting => (if cancelled then done (.unbegun t.path) else begun, [.polled cancelled])
  | begun =>
    match source.read t.path with
    | .error reason => (done (.unreadable t.path reason), [.read t.path])
    | .ok text => (running text [] t.rules, [.read t.path])
  | running _ ran [] => (done (.scanned t.path ran), [])
  | running text ran (r :: left) =>
    let polls := if ran.isEmpty then [] else [.polled cancelled]
    if !ran.isEmpty && cancelled then (done (.scanned t.path ran), polls)
    else
      let run := r.run t.path text
      (if run.failed then done (.scanned t.path (ran ++ [run])) else running text (ran ++ [run]) left, polls)
  | done run => (done run, [])

/-- What came of the file, once it is done. -/
def run? : Progress → Option FileRun
  | done run => some run
  | _ => none

/-- An upper bound on the steps that are left. -/
def stepsLeft (t : Task) : Progress → Nat
  | waiting => t.rules.length + 3
  | begun => t.rules.length + 2
  | running _ _ left => left.length + 1
  | done _ => 0

end Progress

/-- A file of a plan and how far its scan has come. -/
structure FileWork where
  task : Task
  progress : Progress := .waiting

def FileWork.isOpen (f : FileWork) : Bool := f.progress.run?.isNone

/-- What happens next: the scan is cancelled, or a worker makes a step with the file of this number. -/
inductive Action where
  | cancel
  | step (file : Nat)
deriving DecidableEq, Repr

/-- The state of a scan. -/
structure Workers where
  files : List FileWork
  cancelled : Bool := false
  failure : Option HookFailure := none
  /-- What was seen so far, first things first. -/
  log : List Signal := []

namespace Workers

def start (plan : List Task) : Workers := { files := plan.map ({ task := · }) }

/-- The number of the file that a step is made with: the one asked for, unless it is done or the files are to be taken
in order; then it is the first that is not done. -/
def turn (w : Workers) (inOrder : Bool) (file : Nat) : Nat :=
  if !inOrder && w.files[file]?.any (·.isOpen) then file else w.files.findIdx (·.isOpen)

/-- What an action does. -/
def act (source : FileSource) (inOrder : Bool) (w : Workers) : Action → Workers
  | .cancel => { w with cancelled := true }
  | .step file =>
    let file := w.turn inOrder file
    match w.failure, w.files[file]? with
    | none, some f =>
      let (progress, signals) := f.progress.step source f.task w.cancelled
      { w with
        files := w.files.set file { f with progress }
        failure := progress.run?.bind FileRun.failure?
        log := w.log ++ signals }
    | _, _ => w

/-- An upper bound on the steps that are left. -/
def stepsLeft (w : Workers) : Nat := w.files.foldr (fun f n => f.progress.stepsLeft f.task + n) 0

/-- What came of the files that are done. -/
def runs (w : Workers) : List FileRun := w.files.filterMap (·.progress.run?)

/-- What the scan comes to. -/
def result (w : Workers) : Except HookFailure ScanResult :=
  match w.failure with
  | some failure => .error failure
  | none => .ok (Scanner.gather w.runs w.cancelled)

end Workers

/-- The scan of a source by so many workers, or by any number of them, under a schedule. -/
def Scanner.work (s : Scanner) (parallelism : Option Nat) (schedule : List Action) (source : FileSource) : Workers :=
  let start := Workers.start (s.plan source)
  (schedule ++ List.replicate start.stepsLeft (Action.step 0)).foldl (Workers.act source (parallelism == some 1)) start

end PatternLint
