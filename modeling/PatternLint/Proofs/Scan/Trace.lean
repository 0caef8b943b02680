import Mathlib.Data.List.Basic
import PatternLint.Proofs.Report.Aggregate
import PatternLint.Scan.Basic
/-!
# What comes of a file

The scan of a file that no hook fails on runs all rules of the file, or fewer of them if it is interrupted, but at
least one (`run_scannedPart`). A scan that is never interrupted succeeds exactly if no hook fails on any file of its
plan, and it gathers what every rule found (`scan_never_of_unfailing`, `unfailing_of_scan_never`).
-/
namespace PatternLint

variable {source : FileSource} {t : Task} {path : String} {text : List Char}

/-! ## The rules of a file -/

/-- Rules that do not fail run one after the other, as long as nobody interrupts. -/
theorem runRules_append (interrupted : Nat → Bool) (pre rest : List Rule) (i : Nat)
    (hok : ∀ r ∈ pre, (r.run path text).failed = false) (hgo : ∀ j < i + pre.length, interrupted j = false) :
    runRules interrupted path text i (pre ++ rest) =
      pre.map (·.run path text) ++ runRules interrupted path text (i + pre.length) rest := by
  induction pre generalizing i with
  | nil => rfl
  | cons r pre ih =>
    rw [List.cons_append, runRules]
    have hi : interrupted i = false := hgo i (by simp)
    have hr : (r.run path text).failed = false := hok r (by simp)
    have ih := ih (i + 1) (fun r hr => hok r (by simp [hr])) fun j hj => hgo j (by rw [List.length_cons]; omega)
    simp only [hi, hr, Bool.and_false, Bool.false_eq_true, if_false, ih, List.map_cons, List.cons_append,
      List.length_cons, Nat.add_assoc, Nat.add_comm 1]

/-- What runs is a beginning of the rules, and the first of them runs in any case. -/
theorem runRules_prefix (interrupted : Nat → Bool) (rules : List Rule) (i : Nat)
    (hok : ∀ r ∈ rules, (r.run path text).failed = false) :
    ∃ pre, pre <+: rules ∧ (i = 0 → rules ≠ [] → pre ≠ []) ∧
      runRules interrupted path text i rules = pre.map (·.run path text) := by
  induction rules generalizing i with
  | nil => exact ⟨[], List.nil_prefix, fun _ h => (h rfl).elim, rfl⟩
  | cons r rules ih =>
    obtain ⟨pre, hpre, -, hrun⟩ := ih (i + 1) fun r hr => hok r (by simp [hr])
    rw [runRules]
    split
    · exact ⟨[], List.nil_prefix, by rintro rfl; simp_all, rfl⟩
    · refine ⟨r :: pre, List.cons_prefix_cons.2 ⟨rfl, hpre⟩, by simp, ?_⟩
      simp [hok r (by simp), hrun]

theorem unfailed_of_runRules (rules : List Rule) (i : Nat)
    (h : ∀ run ∈ runRules (fun _ => false) path text i rules, run.failed = false) :
    ∀ r ∈ rules, (r.run path text).failed = false := by
  induction rules generalizing i with
  | nil => simp
  | cons r rules ih =>
    rw [runRules] at h
    simp only [Bool.and_false, Bool.false_eq_true, if_false] at h
    cases hr : (r.run path text).failed with
    | true =>
      rw [hr] at h
      exact absurd (h (r.run path text) (by simp)) (by simp [hr])
    | false =>
      rw [hr] at h
      intro q hq
      rcases List.mem_cons.1 hq with rfl | hq
      · exact hr
      · exact ih (i + 1) (fun run hrun => h run (by simp [hrun])) q hq

/-! ## One file -/

/-- No rule of the task fails on the file, if it can be read. -/
def Task.Unfailing (source : FileSource) (t : Task) : Prop :=
  ∀ text, source.read t.path = .ok text → ∀ r ∈ t.rules, (r.run t.path text).failed = false

/-- What can come of a file that no rule fails on: it is not scanned at all, or by a beginning of its rules. -/
inductive ScannedPart (source : FileSource) (t : Task) : FileRun → Prop
  | unbegun : ScannedPart source t (.unbegun t.path)
  | unreadable {reason : ReadError} : source.read t.path = .error reason →
      ScannedPart source t (.unreadable t.path reason)
  | scanned {text : List Char} {pre : List Rule} : source.read t.path = .ok text → pre <+: t.rules → pre ≠ [] →
      ScannedPart source t (.scanned t.path (pre.map (·.run t.path text)))

/-- What a rule finds in a file; nothing, if the file cannot be read or the rule fails. -/
def FileSource.found (source : FileSource) (path : String) (r : Rule) : List Complaint :=
  match source.read path with
  | .ok text => ((r.run path text).complaints.toOption).getD []
  | .error _ => []

namespace FileRun

/-- What was found in a file. -/
def found (run : FileRun) : List Complaint := run.complaints?.getD []

theorem failure?_eq_none_iff {path : String} {runs : List RuleRun} :
    (scanned path runs).failure? = none ↔ ∀ r ∈ runs, r.failed = false := by
  rw [failure?, List.findSome?_eq_none_iff]
  refine forall₂_congr fun r _ => ?_
  cases hr : r.complaints <;> simp [RuleRun.failed, hr]

theorem found_scanned (h : source.read path = .ok text) (rules : List Rule) :
    (scanned path (rules.map (·.run path text))).found = rules.flatMap (source.found path) := by
  have hfound : source.found path = fun r => ((r.run path text).complaints.toOption).getD [] := by
    funext r
    simp [FileSource.found, h]
  simp [found, complaints?, List.flatMap_map, hfound]

end FileRun

namespace Task

theorem run_never_of_unfailing (h : t.Unfailing source) (k : Nat) : t.run source .never k =
    match source.read t.path with
    | .error reason => .unreadable t.path reason
    | .ok text => .scanned t.path (t.rules.map (·.run t.path text)) := by
  unfold run
  cases hr : source.read t.path with
  | error reason => rfl
  | ok text =>
    have hrun := runRules_append (fun _ => false) t.rules [] 0 (h text hr) fun _ _ => rfl
    rw [List.append_nil, runRules, List.append_nil] at hrun
    simp [Interrupt.never, hrun]

theorem failure?_run_never {k : Nat} : (t.run source .never k).failure? = none ↔ t.Unfailing source := by
  constructor
  · intro h text hr
    have hrun : t.run source .never k = .scanned t.path (runRules (fun _ => false) t.path text 0 t.rules) := by
      simp [run, Interrupt.never, hr]
    rw [hrun, FileRun.failure?_eq_none_iff] at h
    exact unfailed_of_runRules t.rules 0 h
  · intro h
    rw [run_never_of_unfailing h]
    cases hr : source.read t.path with
    | error reason => rfl
    | ok text =>
      refine FileRun.failure?_eq_none_iff.2 fun run hrun => ?_
      obtain ⟨r, hmem, rfl⟩ := List.mem_map.1 hrun
      exact h text hr r hmem

/-- However a scan is interrupted, a file is not scanned at all or by a beginning of its rules. -/
theorem run_scannedPart (h : t.Unfailing source) (hne : t.rules ≠ []) (i : Interrupt) (k : Nat) :
    ScannedPart source t (t.run source i k) := by
  unfold run
  split
  · exact .unbegun
  · split
    · exact .unreadable ‹_›
    · rename_i text hr
      obtain ⟨pre, hpre, hfirst, hrun⟩ := runRules_prefix (i.beforeRule k) t.rules 0 (h text hr)
      rw [hrun]
      exact .scanned hr hpre (hfirst rfl hne)

theorem found_run_never (h : t.Unfailing source) (k : Nat) :
    (t.run source .never k).found = t.rules.flatMap (source.found t.path) := by
  rw [run_never_of_unfailing h]
  cases hr : source.read t.path with
  | error reason =>
    have hnone : ∀ r ∈ t.rules, source.found t.path r = [] := fun r _ => by simp [FileSource.found, hr]
    rw [List.flatMap_eq_nil_iff.2 hnone]
    rfl
  | ok text => exact FileRun.found_scanned hr t.rules

theorem flatMap_found_run_never {ts : List Task} (h : ∀ t ∈ ts, t.Unfailing source) :
    (ts.map (·.run source .never 0)).flatMap FileRun.found =
      ts.flatMap fun t => t.rules.flatMap (source.found t.path) := by
  rw [List.flatMap_map]
  exact List.flatMap_congr fun t ht => found_run_never (h t ht) 0

end Task

namespace ScannedPart

variable {run : FileRun}

theorem failure? (h : ScannedPart source t run) (ht : t.Unfailing source) : run.failure? = none := by
  cases h with
  | unbegun => rfl
  | unreadable _ => rfl
  | scanned hr hpre _ =>
    refine FileRun.failure?_eq_none_iff.2 fun run hrun => ?_
    obtain ⟨r, hmem, rfl⟩ := List.mem_map.1 hrun
    exact ht _ hr r (hpre.subset hmem)

/-- What is found in part of a scan is found in all of it, in the same order. -/
theorem found_sublist (h : ScannedPart source t run) : run.found.Sublist (t.rules.flatMap (source.found t.path)) := by
  cases h with
  | unbegun => exact List.nil_sublist _
  | unreadable _ => exact List.nil_sublist _
  | scanned hr hpre _ =>
    rw [FileRun.found_scanned hr]
    obtain ⟨rest, hrest⟩ := hpre
    rw [← hrest, List.flatMap_append]
    exact List.sublist_append_left _ _

end ScannedPart

/-! ## All files -/

/-- As long as no hook fails the files are scanned one after the other, and a failure is that of the first file that
fails. -/
theorem trace_eq (source : FileSource) (i : Interrupt) (k : Nat) (ts : List Task) :
    let runs := ts.mapIdx fun j t => t.run source i (k + j)
    (trace source i k ts).findSome? FileRun.failure? = runs.findSome? FileRun.failure? ∧
      (runs.findSome? FileRun.failure? = none → trace source i k ts = runs) := by
  induction ts generalizing k with
  | nil => exact ⟨rfl, fun _ => rfl⟩
  | cons t ts ih =>
    have ih := ih (k + 1)
    simp only [List.mapIdx_cons, trace, Nat.add_zero, Nat.add_assoc, Nat.add_comm 1] at ih ⊢
    cases hf : (t.run source i k).failure? with
    | some failure => simp [hf]
    | none =>
      simp only [hf, Option.isSome_none, Bool.false_eq_true, if_false, List.findSome?_cons]
      exact ⟨ih.1, fun h => by rw [ih.2 h]⟩

namespace Scanner

variable {s : Scanner}

theorem scan_eq (s : Scanner) (source : FileSource) (i : Interrupt) :
    let runs := (s.plan source).mapIdx fun k t => t.run source i k
    (s.scan source i).2 = match runs.findSome? FileRun.failure? with
      | some failure => .error failure
      | none => .ok (gather runs (i.atEnd (s.plan source).length)) := by
  obtain ⟨hfail, hruns⟩ := trace_eq source i 0 (s.plan source)
  simp only [Nat.zero_add] at hfail hruns
  simp only [scan, hfail]
  cases h : ((s.plan source).mapIdx fun k t => t.run source i k).findSome? FileRun.failure? with
  | some failure => rfl
  | none => simp only [hruns h]

/-- The files of a plan, each scanned by all of its rules. -/
def fullRuns (s : Scanner) (source : FileSource) : List FileRun := (s.plan source).map (·.run source .never 0)

theorem scan_never_eq (s : Scanner) (source : FileSource) :
    (s.scan source .never).2 = match (s.fullRuns source).findSome? FileRun.failure? with
      | some failure => .error failure
      | none => .ok (gather (s.fullRuns source) false) := by
  have hruns : ((s.plan source).mapIdx fun k t => t.run source .never k) = s.fullRuns source := by
    unfold fullRuns
    induction s.plan source with
    | nil => rfl
    | cons t ts ih => exact List.mapIdx_cons.trans (congrArg _ ih)
  rw [scan_eq, hruns]
  rfl

theorem scan_never_of_unfailing (h : ∀ t ∈ s.plan source, t.Unfailing source) :
    (s.scan source .never).2 = .ok (gather (s.fullRuns source) false) := by
  have hnone : (s.fullRuns source).findSome? FileRun.failure? = none := by
    refine List.findSome?_eq_none_iff.2 fun run hrun => ?_
    obtain ⟨t, ht, rfl⟩ := List.mem_map.1 hrun
    exact Task.failure?_run_never.2 (h t ht)
  rw [scan_never_eq, hnone]

theorem unfailing_of_scan_never {full : ScanResult} (h : (s.scan source .never).2 = .ok full) :
    (∀ t ∈ s.plan source, t.Unfailing source) ∧ full = gather (s.fullRuns source) false := by
  rw [scan_never_eq] at h
  cases hnone : (s.fullRuns source).findSome? FileRun.failure? with
  | some failure =>
    rw [hnone] at h
    cases h
  | none =>
    rw [hnone] at h
    refine ⟨fun t ht => ?_, (Except.ok.inj h).symm⟩
    exact Task.failure?_run_never.1 (List.findSome?_eq_none_iff.1 hnone _ (List.mem_map.2 ⟨t, ht, rfl⟩))

theorem scan_never_error (h : ¬∀ t ∈ s.plan source, t.Unfailing source) :
    ∃ e, (s.scan source .never).2 = .error e := by
  cases hscan : (s.scan source .never).2 with
  | error e => exact ⟨e, rfl⟩
  | ok full => exact absurd (unfailing_of_scan_never hscan).1 h

/-! ## Gathering -/

theorem gather_complaints (runs : List FileRun) (b : Bool) :
    (gather runs b).complaints = (runs.flatMap FileRun.found).mergeSort fun c d => (c.order d).isLE := by
  have hflat : (runs.filterMap FileRun.complaints?).flatten = runs.flatMap FileRun.found := by
    induction runs with
    | nil => rfl
    | cons run runs ih =>
      rw [List.flatMap_cons, ← ih, List.filterMap_cons, FileRun.found]
      cases run.complaints? <;> rfl
  rw [← hflat]
  rfl

/-- A result in a form that can be computed with. -/
theorem gather_eq_insertSort (runs : List FileRun) (b : Bool) : gather runs b =
    let scanned := runs.filterMap FileRun.complaints?
    let sorted := insertSort (fun c d : Complaint => (c.order d).isLE) scanned.flatten
    let warnings := sorted.countP (·.severity = .warning)
    ⟨sorted, sorted.length, warnings, sorted.length - warnings, scanned.length, b⟩ := by
  simp only [gather, ScanResult.aggregate, Complaint.totalLE_order.mergeSort_eq_insertSort]

theorem gather_counts (runs : List FileRun) (b : Bool) :
    let r := gather runs b
    r.total = r.complaints.length ∧ r.warnings = r.complaints.countP (·.severity = .warning) ∧
      r.criticals = r.complaints.countP (·.severity = .critical) := by
  exact ⟨rfl, rfl, Nat.sub_eq_of_eq_add' (Complaint.countP_severity _).symm⟩

theorem gather_filesScanned (runs : List FileRun) (b : Bool) :
    (gather runs b).filesScanned = runs.countP (·.complaints?.isSome) :=
  List.length_filterMap_eq_countP

end Scanner

end PatternLint
