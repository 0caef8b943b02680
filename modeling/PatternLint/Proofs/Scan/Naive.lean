import PatternLint.Proofs.Scan.Workers
/-!
# A scan finds what its rules find

`Scanner.naive` says what a scan is for, without a plan, a reading order or workers: every rule looks at every file that
it accepts, and each match becomes complaints. Main statement: whatever the number of workers and the order of their
steps, a scan of distinct candidates reports just these complaints, sorted and counted. Files that cannot be read make
no difference.
-/
namespace PatternLint

variable {source : FileSource} {path : String} {text : List Char} {r : Rule}

/-! ## One rule on one file -/

theorem mapM_of_ok {ε α β : Type} {f : α → Except ε (List β)} (as : List α) (h : ∀ a ∈ as, ∃ bs, f a = .ok bs) :
    as.mapM f = .ok (as.map fun a => ((f a).toOption).getD []) := by
  induction as with
  | nil => rfl
  | cons a as ih =>
    obtain ⟨bs, hbs⟩ := h a (by simp)
    rw [List.mapM_cons, ih fun b hb => h b (by simp [hb]), hbs]
    simp [hbs, Except.toOption]
    rfl

/-- Every match of the rule in the file can be made into complaints. -/
def Rule.Builds (r : Rule) (path : String) (text : List Char) : Prop :=
  ∀ span ∈ (r.finder.findAll text).spans, ∃ found, r.build path text span = .ok found

namespace Rule

theorem run_of_builds (h : r.Builds path text) : (r.run path text).complaints =
    .ok ((r.finder.findAll text).spans.flatMap fun span => ((r.build path text span).toOption).getD []) := by
  have hmap := mapM_of_ok (f := r.build path text) _ h
  simp only [run, hmap, List.flatMap_def]
  rfl

theorem failed_run_iff : (r.run path text).failed = false ↔ r.Builds path text := by
  constructor
  · intro h span hspan
    cases hrun : (r.run path text).complaints with
    | error e => simp [RuleRun.failed, hrun] at h
    | ok found =>
      obtain ⟨lists, hlists, -⟩ := bind_ok hrun
      obtain ⟨found, -, hfound⟩ := exists_of_forall₂ (mapM_ok _ hlists) hspan
      exact ⟨found, hfound⟩
  · intro h
    rw [RuleRun.failed, run_of_builds h]

theorem builds_of_hook_none (h : r.hook = none) : r.Builds path text := by
  intro span _
  rw [build, h]
  exact ⟨_, rfl⟩

end Rule

/-! ## All rules on all files -/

/-- The source without the files that cannot be read. -/
def FileSource.readable (source : FileSource) : FileSource :=
  { source with candidates := source.candidates.filter fun p => (source.read p).isOk }

namespace Scanner

/-- What is found if every rule looks at every file that it accepts. -/
def naive (s : Scanner) (source : FileSource) : List Complaint :=
  (source.candidates.filter fun p => !s.excluded.any (·.accepts p)).flatMap fun p =>
    (s.rules.rules.filter (·.accepts p)).flatMap fun r =>
      match source.read p with
      | .ok text => (r.finder.findAll text).spans.flatMap fun span => ((r.build p text span).toOption).getD []
      | .error _ => []

/-- No rule fails on a file that it looks at. -/
def Builds (s : Scanner) (source : FileSource) : Prop :=
  ∀ p ∈ source.candidates, s.excluded.any (·.accepts p) = false → ∀ r ∈ s.rules.rules, r.accepts p →
    ∀ text, source.read p = .ok text → r.Builds p text

variable {s : Scanner}

theorem distinct_candidates (h : Plan.Distinct source.candidates) : Plan.Distinct (s.candidates source) := h.filter _

theorem unfailing_of_builds (hd : Plan.Distinct source.candidates) (h : s.Builds source) :
    ∀ t ∈ s.plan source, t.Unfailing source := by
  intro t ht text hread r hr
  rw [Plan.rules_eq_filter (distinct_candidates hd).agree ht, List.mem_filter] at hr
  obtain ⟨hmem, hexcluded⟩ := List.mem_filter.1 (Plan.path_mem ht)
  exact Rule.failed_run_iff.2 (h t.path hmem (by simpa using hexcluded) r hr.1 hr.2 text hread)

theorem naive_eq (h : s.Builds source) : s.naive source =
    (s.candidates source).flatMap fun p => (s.rules.rules.filter (·.accepts p)).flatMap (source.found p) := by
  refine List.flatMap_congr fun p hp => List.flatMap_congr fun r hr => ?_
  obtain ⟨hmem, hexcluded⟩ := List.mem_filter.1 hp
  obtain ⟨hr, haccepts⟩ := List.mem_filter.1 hr
  rw [FileSource.found]
  cases hread : source.read p with
  | error reason => rfl
  | ok text =>
    simp [Rule.run_of_builds (h p hmem (by simpa using hexcluded) r hr haccepts text hread), Except.toOption]

theorem complaints?_isSome_run_never {t : Task} (h : t.Unfailing source) :
    (t.run source .never 0).complaints?.isSome = (source.read t.path).isOk := by
  rw [Task.run_never_of_unfailing h]
  cases source.read t.path <;> rfl

theorem filesScanned_gather_fullRuns (hd : Plan.Distinct source.candidates)
    (h : ∀ t ∈ s.plan source, t.Unfailing source) : (gather (s.fullRuns source) false).filesScanned =
      (source.candidates.filter fun p => !s.excluded.any (·.accepts p) && s.rules.rules.any (·.accepts p) &&
        (source.read p).isOk).length := by
  have hcount : (s.fullRuns source).countP (·.complaints?.isSome) =
      (s.plan source).countP fun t => (source.read t.path).isOk := by
    rw [fullRuns, List.countP_map]
    exact List.countP_congr fun t ht => by rw [Function.comp_apply, complaints?_isSome_run_never (h t ht)]
  rw [gather_filesScanned, hcount, plan, Plan.make_eq_of_distinct (distinct_candidates hd), List.countP_map,
    (List.mergeSort_perm _ _).countP_eq, List.countP_eq_length_filter, candidates, List.filter_filter,
    List.filter_filter]
  congr 1
  refine List.filter_congr fun p _ => ?_
  simp only [Function.comp_apply, Plan.taskOf]
  rw [Bool.and_comm, Bool.and_assoc, Bool.and_comm (source.read p).isOk]

/-- Files that cannot be read make no difference. -/
theorem gather_fullRuns_readable (hd : Plan.Distinct source.candidates)
    (h : ∀ t ∈ s.plan source, t.Unfailing source) :
    gather (s.fullRuns source.readable) false = gather (s.fullRuns source) false := by
  have hplan : s.plan source.readable = (s.plan source).filter fun t => (source.read t.path).isOk := by
    rw [plan, plan, ← Plan.make_filter (distinct_candidates hd) fun p => (source.read p).isOk]
    exact congrArg _ (List.filter_comm _ _ _)
  have hruns : (s.fullRuns source.readable).filterMap FileRun.complaints? =
      (s.fullRuns source).filterMap FileRun.complaints? := by
    rw [fullRuns, fullRuns, hplan, List.filterMap_map, List.filterMap_map, List.filterMap_filter]
    refine List.filterMap_congr fun t ht => ?_
    have hsome := complaints?_isSome_run_never (h t ht)
    split
    · rfl
    · rename_i hok
      rw [Bool.not_eq_true] at hok
      rw [hok, Option.isSome_eq_false_iff, Option.isNone_iff_eq_none] at hsome
      exact hsome.symm
  simp only [gather, hruns]

/-- A scan of distinct candidates on which no rule fails succeeds, with any number of workers in any order of their
steps. It reports what every rule finds in every file that it accepts, in order and counted, and it is the same without
the files that cannot be read. -/
theorem work_perm_naive (s : Scanner) (source : FileSource) (hd : Plan.Distinct source.candidates)
    (hb : s.Builds source) : ∃ r,
    (∀ parallelism schedule, .cancel ∉ schedule → (s.work parallelism schedule source).result = .ok r) ∧
    (s.scan source .never).2 = .ok r ∧
    r.complaints.Perm (s.naive source) ∧ r.complaints.Pairwise (fun a b => (a.order b).isLE) ∧
    r.total = r.complaints.length ∧ r.warnings = r.complaints.countP (·.severity = .warning) ∧
    r.criticals = r.complaints.countP (·.severity = .critical) ∧
    r.filesScanned = (source.candidates.filter fun p => !s.excluded.any (·.accepts p) &&
      s.rules.rules.any (·.accepts p) && (source.read p).isOk).length ∧
    r.interrupted = false ∧ (s.scan source.readable .never).2 = .ok r := by
  have h := unfailing_of_builds hd hb
  refine ⟨gather (s.fullRuns source) false, fun parallelism _ hc => work_result_of_unfailing parallelism h hc,
    scan_never_of_unfailing h, ?_, ?_, rfl, rfl, (gather_counts _ _).2.2, filesScanned_gather_fullRuns hd h, rfl, ?_⟩
  · rw [gather_complaints, fullRuns, Task.flatMap_found_run_never h, naive_eq hb]
    exact (List.mergeSort_perm _ _).trans (Plan.flatMap_make_perm (distinct_candidates hd) source.found)
  · rw [gather_complaints]
    exact Complaint.totalLE_order.pairwise_mergeSort _
  · rw [← gather_fullRuns_readable hd h]
    refine scan_never_of_unfailing (unfailing_of_builds (hd.filter _) fun p hp => ?_)
    exact hb p (List.mem_of_mem_filter hp)

/-- The two rules find two things each, in the two files that are not left out and can be read. -/
theorem notesScanner_work_perm_naive : ∃ s, notesScanner = .ok s ∧ Plan.Distinct notes.candidates ∧ s.Builds notes ∧
    (s.naive notes).length = 4 ∧ ∃ r, r.total = 4 ∧ r.filesScanned = 2 ∧ r.complaints.Perm (s.naive notes) ∧
      ∀ parallelism schedule, .cancel ∉ schedule → (s.work parallelism schedule notes).result = .ok r := by
  have h : (notesScanner.toOption.map fun s => (s.rules.rules.all (·.hook.isNone), (s.naive notes).length,
      (notes.candidates.filter fun p => !s.excluded.any (·.accepts p) && s.rules.rules.any (·.accepts p) &&
        (notes.read p).isOk).length)) = some (true, 4, 2) := by decide +kernel
  obtain ⟨s, hs, heq⟩ := toOption_map_ok h
  simp only [Prod.mk.injEq, List.all_eq_true, Option.isNone_iff_eq_none] at heq
  obtain ⟨hhooks, hlength, hfiles⟩ := heq
  have hb : s.Builds notes := fun p _ _ r hr _ text _ => Rule.builds_of_hook_none (hhooks r hr)
  obtain ⟨r, hwork, -, hperm, -, htotal, -, -, hscanned, -, -⟩ := work_perm_naive s notes notes_distinct hb
  have hfour : r.total = 4 := by rw [htotal, hperm.length_eq, hlength]
  exact ⟨s, hs, notes_distinct, hb, hlength, r, hfour, hscanned.trans hfiles, hperm, hwork⟩

end Scanner

end PatternLint
