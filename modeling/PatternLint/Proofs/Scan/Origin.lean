import PatternLint.Proofs.Scan.Failure
import PatternLint.Proofs.Scan.Independence
/-!
# Where complaints come from

A finding is a complaint with the match that it was made of. Main statement: however a scan is cancelled, what it reports
are the complaints of findings of its plan, none taken twice, and every one of them lies in the file that was scanned.
A complaint of a rule without a hook says just what the rule and the match say.
-/
namespace PatternLint

/-- A complaint, and the file, the rule and the match that it was made of. -/
structure Finding where
  path : String
  text : List Char
  rule : Rule
  span : Span
  complaint : Complaint

/-- What is known of a finding in a plan. -/
structure Finding.Placed (source : FileSource) (plan : List Task) (f : Finding) : Prop where
  planned : ∃ t ∈ plan, t.path = f.path ∧ f.rule ∈ t.rules
  read : source.read f.path = .ok f.text
  matched : f.span ∈ (f.rule.finder.findAll f.text).spans
  built : ∃ found, f.rule.build f.path f.text f.span = .ok found ∧ f.complaint ∈ found
  fits : f.complaint.span.start ≤ f.complaint.span.stop ∧ f.complaint.span.stop ≤ byteLength f.text
  plain : f.rule.hook = none →
    f.complaint.span = f.span ∧ Boundary f.text f.complaint.span.start ∧ Boundary f.text f.complaint.span.stop ∧
    f.complaint.location = resolve f.text f.complaint.span ∧ f.complaint.rule = f.rule.name ∧
    f.complaint.path = f.path ∧ f.complaint.severity = f.rule.info.severity

variable {source : FileSource} {t : Task} {path : String} {text : List Char} {r : Rule} {span : Span}

/-! ## One match -/

theorem Finder.span_in (f : Finder) {text : List Char} (h : span ∈ (f.findAll text).spans) : span.In text := by
  cases f with
  | pattern p => exact (p.findAll_wellPlaced text).span_in span h
  | grammar m => exact (m.findAll_wellPlaced Matcher.maxNesting text).span_in span h

namespace Rule

/-- Whatever a hook says, complaints that leave the file are not passed on. -/
theorem build_fits (hspan : span.In text) {found : List Complaint} (h : r.build path text span = .ok found)
    {c : Complaint} (hc : c ∈ found) : c.span.start ≤ c.span.stop ∧ c.span.stop ≤ byteLength text := by
  cases hhook : r.hook with
  | none =>
    rw [build_of_hook_none hhook] at h
    obtain rfl := Except.ok.inj h
    obtain rfl := List.mem_singleton.1 hc
    exact ⟨hspan.1, hspan.2.1⟩
  | some hook =>
    rw [build, hhook, Match.build_ok_iff] at h
    obtain ⟨given, -, hwithin, hpassed⟩ := h
    obtain ⟨c₀, hc₀, hpass⟩ := exists_of_forall₂ hpassed.flip hc
    rw [hpass.span_eq]
    exact hwithin c₀ hc₀

/-- What a rule finds in a file. -/
def findings (r : Rule) (path : String) (text : List Char) : List Finding :=
  (r.finder.findAll text).spans.flatMap fun span =>
    (((r.build path text span).toOption).getD []).map fun c => ⟨path, text, r, span, c⟩

theorem complaints_run_of_builds (h : r.Builds path text) :
    (r.run path text).complaints = .ok ((r.findings path text).map (·.complaint)) := by
  rw [run_of_builds h, findings, List.map_flatMap]
  simp only [List.map_map, Function.comp_def, List.map_id']

theorem mem_findings {f : Finding} (h : f ∈ r.findings path text) : f.path = path ∧ f.text = text ∧ f.rule = r ∧
    f.span ∈ (r.finder.findAll text).spans ∧
      ∃ found, r.build path text f.span = .ok found ∧ f.complaint ∈ found := by
  obtain ⟨span, hspan, h⟩ := List.mem_flatMap.1 h
  obtain ⟨c, hc, rfl⟩ := List.mem_map.1 h
  refine ⟨rfl, rfl, rfl, hspan, ?_⟩
  cases hb : r.build path text span with
  | error reason => simp [hb, Except.toOption] at hc
  | ok found => exact ⟨found, rfl, by simpa [hb, Except.toOption] using hc⟩

end Rule

/-! ## One file -/

/-- What comes of a file is what came of a beginning of its rules, also if one of them failed. -/
theorem runRules_eq_map (path : String) (text : List Char) (interrupted : Nat → Bool) (rules : List Rule) (i : Nat) :
    ∃ ran, ran <+: rules ∧ runRules interrupted path text i rules = ran.map (·.run path text) := by
  induction rules generalizing i with
  | nil => exact ⟨[], List.nil_prefix, rfl⟩
  | cons r rules ih =>
    rw [runRules]
    split
    · exact ⟨[], List.nil_prefix, rfl⟩
    · simp only
      split
      · exact ⟨[r], List.cons_prefix_cons.2 ⟨rfl, List.nil_prefix⟩, rfl⟩
      · obtain ⟨ran, hran, hrun⟩ := ih (i + 1)
        exact ⟨r :: ran, List.cons_prefix_cons.2 ⟨rfl, hran⟩, by rw [hrun, List.map_cons]⟩

namespace Task

/-- What the rules of a file find in it. -/
def findings (source : FileSource) (t : Task) : List Finding :=
  match source.read t.path with
  | .ok text => t.rules.flatMap fun r => r.findings t.path text
  | .error _ => []

/-- However the scan of a file is cut short, what it brings are findings of the file. -/
theorem found_run (source : FileSource) (t : Task) (i : Interrupt) (k : Nat)
    (h : (t.run source i k).failure? = none) :
    ∃ fs : List Finding, fs.Sublist (t.findings source) ∧ (t.run source i k).found = fs.map (·.complaint) := by
  unfold run at h ⊢
  split
  · exact ⟨[], List.nil_sublist _, rfl⟩
  · rename_i hgo
    rw [if_neg hgo] at h
    cases hread : source.read t.path with
    | error reason => exact ⟨[], List.nil_sublist _, rfl⟩
    | ok text =>
      obtain ⟨ran, ⟨rest, hrest⟩, hrun⟩ :=
        runRules_eq_map t.path text (i.beforeRule k) t.rules 0
      simp only [hread, hrun] at h ⊢
      refine ⟨ran.flatMap fun r => r.findings t.path text, ?_, ?_⟩
      · simp only [findings, hread, ← hrest, List.flatMap_append]
        exact List.sublist_append_left _ _
      · rw [FileRun.found_scanned hread, List.map_flatMap]
        refine List.flatMap_congr fun r hr => ?_
        have hbuilds : r.Builds t.path text :=
          Rule.failed_run_iff.1 (FileRun.failure?_eq_none_iff.1 h _ (List.mem_map.2 ⟨r, hr, rfl⟩))
        rw [FileSource.found, hread]
        simp [Rule.complaints_run_of_builds hbuilds, Except.toOption]

end Task

/-! ## All files -/

/-- What the rules of a plan find in its files. -/
def Plan.findings (source : FileSource) (plan : List Task) : List Finding := plan.flatMap (Task.findings source)

theorem Plan.placed_of_mem_findings {plan : List Task} {f : Finding} (h : f ∈ Plan.findings source plan) :
    f.Placed source plan := by
  obtain ⟨t, ht, h⟩ := List.mem_flatMap.1 h
  unfold Task.findings at h
  cases hread : source.read t.path with
  | error reason => simp [hread] at h
  | ok text =>
    rw [hread] at h
    obtain ⟨r, hr, h⟩ := List.mem_flatMap.1 h
    obtain ⟨path, text', rule, span, c⟩ := f
    obtain ⟨rfl, rfl, rfl, hspan, found, hbuild, hc⟩ := Rule.mem_findings h
    have hin : span.In text' := Finder.span_in _ hspan
    refine ⟨⟨t, ht, rfl, hr⟩, hread, hspan, ⟨found, hbuild, hc⟩, Rule.build_fits hin hbuild hc, fun hhook => ?_⟩
    simp only at hhook hbuild hc
    rw [Rule.build_of_hook_none hhook] at hbuild
    obtain rfl := Except.ok.inj hbuild
    obtain rfl := List.mem_singleton.1 hc
    exact ⟨rfl, hin.2.2.1, hin.2.2.2, rfl, rfl, rfl, rfl⟩

/-- Files that were each cut short at some point bring findings of the plan. -/
theorem Plan.found_runs {plan : List Task} {runs : List FileRun}
    (h : List.Forall₂ (fun t run => ∃ i k, run = t.run source i k) plan runs)
    (hnone : ∀ run ∈ runs, run.failure? = none) :
    ∃ fs : List Finding, fs.Sublist (Plan.findings source plan) ∧ runs.flatMap FileRun.found = fs.map (·.complaint) := by
  induction h with
  | nil => exact ⟨[], List.nil_sublist _, rfl⟩
  | @cons t run plan runs hrun _ ih =>
    obtain ⟨i, k, rfl⟩ := hrun
    obtain ⟨fs, hfs, hfound⟩ := ih fun run hrun => hnone run (by simp [hrun])
    obtain ⟨gs, hgs, hgfound⟩ := t.found_run source i k (hnone _ (by simp))
    refine ⟨gs ++ fs, ?_, ?_⟩
    · rw [Plan.findings, List.flatMap_cons]
      exact hgs.append hfs
    · rw [List.flatMap_cons, hgfound, hfound, List.map_append]

namespace Scanner

variable {s : Scanner} {r : ScanResult}

/-- Workers under some schedule, or a scan of one file after the other that is interrupted at some point, come to the
result. -/
def Reports (s : Scanner) (source : FileSource) (r : ScanResult) : Prop :=
  (∃ parallelism schedule, (s.work parallelism schedule source).result = .ok r) ∨ ∃ i, (s.scan source i).2 = .ok r

/-- A result is gathered from all files of the plan, each of them scanned up to some point. -/
theorem Reports.exists_runs (h : s.Reports source r) : ∃ runs b, r = gather runs b ∧
    List.Forall₂ (fun t run => ∃ i k, run = t.run source i k) (s.plan source) runs ∧
    ∀ run ∈ runs, run.failure? = none := by
  rcases h with ⟨parallelism, schedule, h⟩ | ⟨i, h⟩
  · have hsound := Workers.work_sound s parallelism schedule source
    have hnone : (s.work parallelism schedule source).failure = none := by
      by_contra hne
      obtain ⟨e, he⟩ := Option.ne_none_iff_exists'.1 hne
      cases (Workers.result_eq_error.2 he).symm.trans h
    rw [Workers.result, hnone] at h
    refine ⟨_, _, (Except.ok.inj h).symm, ?_, hsound.unfailed hnone⟩
    refine (hsound.runs_forall₂ (Workers.work_over s parallelism schedule source) hnone).imp ?_
    rintro t run ⟨i, -, hrun⟩
    exact ⟨i, 0, hrun⟩
  · rw [scan_eq] at h
    split at h
    · cases h
    · rename_i hnone
      refine ⟨_, _, (Except.ok.inj h).symm, ?_, List.findSome?_eq_none_iff.1 hnone⟩
      exact List.forall₂_iff_get.2 ⟨by simp, fun k _ _ => ⟨i, k, by simp⟩⟩

theorem Reports.exists_findings (h : s.Reports source r) :
    ∃ fs : List Finding, fs.Sublist (Plan.findings source (s.plan source)) ∧
      r.complaints.Perm (fs.map (·.complaint)) := by
  obtain ⟨runs, b, rfl, hruns, hnone⟩ := h.exists_runs
  obtain ⟨fs, hfs, hfound⟩ := Plan.found_runs hruns hnone
  refine ⟨fs, hfs, ?_⟩
  rw [gather_complaints, hfound]
  exact List.mergeSort_perm _ _

end Scanner

end PatternLint
