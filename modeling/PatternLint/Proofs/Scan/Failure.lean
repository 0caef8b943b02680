import PatternLint.Proofs.Capture.FindAll
import PatternLint.Proofs.Rule.Overrides
import PatternLint.Proofs.Scan.Cancellation
import PatternLint.Proofs.Scan.Naive
/-!
# Hooks that fail

A match is refused if the hook of its rule fails, or if the hook makes a complaint that leaves the file. Main statement:
workers whom nobody cancels report a failure exactly if some match of the plan is refused, and the failure that they
report is that of a refused match. A single worker reports the first one in the order of the plan: files in the order
of their paths, the rules of a file as they were loaded, the matches of a rule from left to right. It reads the files up
to the one that failed and none after it.
-/
namespace PatternLint

variable {source : FileSource} {t : Task} {path : String} {text : List Char} {r : Rule} {span : Span}

/-! ## One match -/

/-- The match cannot be made into complaints: the hook of the rule fails, or makes a complaint that leaves the file. -/
def Rule.Refuses (r : Rule) (path : String) (text : List Char) (span : Span) : Prop :=
  ∃ hook, r.hook = some hook ∧
    ((∃ reason, hook ⟨r.info, path, text, span⟩ = .error reason) ∨
      ∃ found, hook ⟨r.info, path, text, span⟩ = .ok found ∧
        ∃ c ∈ found, ¬(c.span.start ≤ c.span.stop ∧ c.span.stop ≤ byteLength text))

namespace Rule

theorem build_error_iff : (∃ reason, r.build path text span = .error reason) ↔ r.Refuses path text span := by
  unfold build Match.build Refuses
  cases r.hook with
  | none => simp
  | some hook =>
    simp only [Option.some.injEq, exists_eq_left']
    cases hook ⟨r.info, path, text, span⟩ with
    | error reason => simp [bind, Except.bind]
    | ok found => simpa [bind, Except.bind, Complaint.Within] using exists_mapM_passOn_error_iff

theorem fault?_run : fault? (r.run path text).complaints =
    (r.finder.findAll text).spans.findSome? fun span => fault? (r.build path text span) := by
  rw [← fault?_mapM]
  cases h : (r.finder.findAll text).spans.mapM (r.build path text) <;> simp [run, h, fault?]

end Rule

/-! ## One file -/

theorem findSome?_runRules {β : Type} (f : RuleRun → Option β) (hf : ∀ run, run.failed → (f run).isSome)
    (rules : List Rule) (i : Nat) : (runRules (fun _ => false) path text i rules).findSome? f =
      rules.findSome? fun r => f (r.run path text) := by
  induction rules generalizing i with
  | nil => rfl
  | cons r rules ih =>
    rw [runRules, List.findSome?_cons]
    simp only [Bool.and_false, Bool.false_eq_true, if_false]
    split
    · rename_i hfailed
      obtain ⟨b, hb⟩ := Option.isSome_iff_exists.1 (hf _ hfailed)
      rw [List.findSome?_cons, hb]
    · rw [List.findSome?_cons, ih]

/-- A file fails with the first of its rules that fails. -/
theorem Task.failure?_run_never_eq (source : FileSource) (t : Task) (k : Nat) : (t.run source .never k).failure? =
    match source.read t.path with
    | .error _ => none
    | .ok text => t.rules.findSome? fun r =>
      (fault? (r.run t.path text).complaints).map fun reason => ⟨r.name, t.path, reason⟩ := by
  unfold run
  cases source.read t.path with
  | error reason => rfl
  | ok text =>
    have hfailure : (FileRun.scanned t.path (runRules (fun _ => false) t.path text 0 t.rules)).failure? =
        (runRules (fun _ => false) t.path text 0 t.rules).findSome? fun run =>
          (fault? run.complaints).map fun reason => ⟨run.rule, t.path, reason⟩ := by
      rw [FileRun.failure?]
      congr 1
      funext run
      cases run.complaints <;> rfl
    refine hfailure.trans (findSome?_runRules _ (fun run hrun => ?_) t.rules 0)
    unfold RuleRun.failed at hrun
    cases hc : run.complaints with
    | ok found => simp [hc] at hrun
    | error reason => rfl

/-- The first match of a plan that is refused: it comes with the files up to that of the match, and with the failure that
is reported for it. -/
inductive FirstFailure (source : FileSource) : (plan upTo : List Task) → HookFailure → Prop
  | mk {before after : List Task} {t : Task} {text : List Char} {rs rs' : List Rule} {r : Rule} {ss ss' : List Span}
      {span : Span} {reason : String}
      (files : ∀ u ∈ before, ∀ text, source.read u.path = .ok text → ∀ q ∈ u.rules, q.Builds u.path text)
      (read : source.read t.path = .ok text)
      (rules : t.rules = rs ++ r :: rs') (earlier : ∀ q ∈ rs, q.Builds t.path text)
      (spans : (r.finder.findAll text).spans = ss ++ span :: ss')
      (left : ∀ x ∈ ss, ∃ found, r.build t.path text x = .ok found)
      (error : r.build t.path text span = .error reason) :
      FirstFailure source (before ++ t :: after) (before ++ [t]) ⟨r.name, t.path, reason⟩

theorem Task.unfailing_iff : t.Unfailing source ↔
    ∀ text, source.read t.path = .ok text → ∀ q ∈ t.rules, q.Builds t.path text := by
  simp only [Unfailing, Rule.failed_run_iff]

theorem Rule.builds_iff_fault? : r.Builds path text ↔ fault? (r.run path text).complaints = none := by
  rw [fault?_run, List.findSome?_eq_none_iff]
  simp only [fault?_eq_none]
  rfl

/-- A file that fails has a first match that is refused. -/
theorem firstFailure_of_run (before after : List Task) {e : HookFailure}
    (hbefore : ∀ u ∈ before, u.Unfailing source) (ht : (t.run source .never 0).failure? = some e) :
    FirstFailure source (before ++ t :: after) (before ++ [t]) e := by
  rw [Task.failure?_run_never_eq] at ht
  cases hread : source.read t.path with
  | error reason => simp [hread] at ht
  | ok text =>
    rw [hread] at ht
    obtain ⟨rs, r, rs', hrules, hr, hrs⟩ := List.findSome?_eq_some_iff.1 ht
    obtain ⟨reason, hreason, rfl⟩ := Option.map_eq_some_iff.1 hr
    rw [Rule.fault?_run] at hreason
    obtain ⟨ss, span, ss', hspans, hspan, hss⟩ := List.findSome?_eq_some_iff.1 hreason
    refine .mk (fun u hu => Task.unfailing_iff.1 (hbefore u hu)) hread hrules (fun q hq => ?_) hspans
      (fun x hx => fault?_eq_none.1 (hss x hx)) (fault?_eq_some.1 hspan)
    exact Rule.builds_iff_fault?.2 (Option.map_eq_none_iff.1 (hrs q hq))

/-- The first match that is refused decides what the files come to. -/
theorem FirstFailure.findSome?_failure {plan upTo : List Task} {e : HookFailure} (h : FirstFailure source plan upTo e) :
    (plan.map (·.run source .never 0)).findSome? FileRun.failure? = some e := by
  cases h with
  | @mk before after t text rs rs' r ss ss' span reason hfiles hread hrules hearlier hspans hleft herror =>
    rw [List.findSome?_map, List.findSome?_eq_some_iff]
    refine ⟨before, t, after, rfl, ?_, fun u hu => Task.failure?_run_never.2 (Task.unfailing_iff.2 (hfiles u hu))⟩
    rw [Function.comp_apply, Task.failure?_run_never_eq, hread]
    refine List.findSome?_eq_some_iff.2 ⟨rs, r, rs', hrules, ?_, fun q hq => ?_⟩
    · have hreason : fault? (r.run t.path text).complaints = some reason := by
        rw [Rule.fault?_run]
        exact List.findSome?_eq_some_iff.2 ⟨ss, span, ss', hspans, fault?_eq_some.2 herror,
          fun x hx => fault?_eq_none.2 (hleft x hx)⟩
      rw [hreason]
      rfl
    · rw [Rule.builds_iff_fault?.1 (hearlier q hq)]
      rfl

theorem FirstFailure.exists_error {plan upTo : List Task} {e : HookFailure} (h : FirstFailure source plan upTo e) :
    ∃ t ∈ plan, ∃ text, source.read t.path = .ok text ∧ ∃ r ∈ t.rules, ∃ span ∈ (r.finder.findAll text).spans,
      ∃ reason, r.build t.path text span = .error reason ∧ e = ⟨r.name, t.path, reason⟩ := by
  cases h with
  | mk _ hread hrules _ hspans _ herror =>
    exact ⟨_, by simp, _, hread, _, by simp [hrules], _, by simp [hspans], _, herror, rfl⟩

/-! ## A single worker -/

/-- The file that was read. -/
def Signal.path? : Signal → Option String
  | polled _ => none
  | read path => some path

namespace Progress

/-- Whether the file was read. -/
def wasRead : Progress → Bool
  | waiting | begun | done (.unbegun _) => false
  | running .. | done _ => true

/-- While nobody cancels, a step reads the file if it was begun, and else leaves it read or unread. -/
theorem wasRead_step (source : FileSource) (t : Task) (p : Progress) :
    (p.wasRead = false ∧ (p.step source t false).1.wasRead ∧
      (p.step source t false).2.filterMap Signal.path? = [t.path]) ∨
    ((p.step source t false).1.wasRead = p.wasRead ∧ (p.step source t false).2.filterMap Signal.path? = []) := by
  cases p with
  | waiting => exact .inr ⟨rfl, rfl⟩
  | begun => cases hr : source.read t.path <;> simp [step, hr, wasRead, Signal.path?]
  | running text ran left =>
    right
    cases left with
    | nil => exact ⟨rfl, rfl⟩
    | cons r left =>
      simp only [step, Bool.and_false, Bool.false_eq_true, if_false]
      constructor
      · split <;> rfl
      · split <;> rfl
  | done run => exact .inr ⟨rfl, rfl⟩

end Progress

namespace Workers

variable {plan : List Task} {w w' : Workers}

/-- The files that were read, in their order. -/
def reads (w : Workers) : List String := w.log.filterMap Signal.path?

/-- A single worker stands at `f`: it is done with the files before, none of which failed, and begun none after. -/
structure StandsAt (w : Workers) (before : List FileWork) (f : FileWork) (after : List FileWork) : Prop where
  files : w.files = before ++ f :: after
  finished : ∀ g ∈ before, ∃ run, g.progress = .done run ∧ run.failure? = none
  waiting : ∀ g ∈ after, g.progress = .waiting
  failure : w.failure = f.progress.run?.bind FileRun.failure?

/-- A step that is made in order leaves the worker at the file that it was made with. -/
theorem Move.standsAt (h : w.Move source true w') (hs : Sound source plan w) (ho : Orderly w) :
    ∃ before f after, w'.StandsAt before f after := by
  cases h with
  | @mk before after f hfiles hopen hnone hfirst =>
    refine ⟨before, _, after, rfl, fun g hg => ?_, fun g hg => ?_, rfl⟩
    · obtain ⟨run, hrun⟩ : ∃ run, g.progress.run? = some run := by
        simpa [FileWork.isOpen, Option.isSome_iff_exists] using hfirst rfl g hg
      refine ⟨run, ?_, hs.unfailed hnone run (List.mem_filterMap.2 ⟨g, by simp [hfiles, hg], hrun⟩)⟩
      cases hp : g.progress <;> simp_all [Progress.run?]
    · have hturn := ho.inTurn
      rw [hfiles] at hturn
      rcases (List.pairwise_cons.1 (List.pairwise_append.1 hturn).2.1).1 g hg with hdone | hwait
      · simp [hopen] at hdone
      · exact hwait

/-- The files that were read are in the order of the plan. -/
def ReadsInOrder (w : Workers) : Prop := w.reads = (w.files.filter (·.progress.wasRead)).map (·.task.path)

theorem Move.readsInOrder (h : w.Move source true w') (ho : Orderly w) (hc : w.cancelled = false)
    (hr : w.ReadsInOrder) : w'.ReadsInOrder := by
  cases h with
  | @mk before after f hfiles hopen _ _ =>
    -- no file behind `f` was begun, so what is read now is read last
    have hafter : after.filter (·.progress.wasRead) = [] := by
      have hturn := ho.inTurn
      rw [hfiles] at hturn
      refine List.filter_eq_nil_iff.2 fun g hg => ?_
      rcases (List.pairwise_cons.1 (List.pairwise_append.1 hturn).2.1).1 g hg with hdone | hwait
      · simp [hopen] at hdone
      · simp [hwait, Progress.wasRead]
    unfold ReadsInOrder reads at hr ⊢
    rw [hfiles] at hr
    simp only [hc, List.filterMap_append, hr, List.filter_append, List.filter_cons, hafter]
    rcases f.progress.wasRead_step source f.task with ⟨hread, hread', hlog⟩ | ⟨hsame, hlog⟩
    · simp [hread, hread', hlog]
    · simp only [hsame, hlog, List.append_nil]
      split <;> simp

/-- What holds at all times of a scan by a single worker. -/
structure Sequential (source : FileSource) (plan : List Task) (w : Workers) : Prop where
  sound : Sound source plan w
  orderly : Orderly w
  stands : w.failure ≠ none → ∃ before f after, w.StandsAt before f after
  reads : w.cancelled = false → w.ReadsInOrder

theorem Sequential.start (source : FileSource) (plan : List Task) : Sequential source plan (start plan) where
  sound := .start source plan
  orderly := .start plan
  stands h := absurd rfl h
  reads _ := by
    have hnone : (Workers.start plan).files.filter (·.progress.wasRead) = [] := by
      refine List.filter_eq_nil_iff.2 fun f hf => ?_
      obtain ⟨t, -, rfl⟩ := List.mem_map.1 hf
      simp [Progress.wasRead]
    rw [ReadsInOrder, hnone]
    rfl

theorem work_sequential (s : Scanner) (schedule : List Action) (source : FileSource) :
    Sequential source (s.plan source) (s.work (some 1) schedule source) := by
  refine foldl_act (fun w h => ?_) (fun w w' hmove h => ?_) _ _ (.start source _)
  · refine ⟨h.sound.cancel, h.orderly.cancel, fun hfail => ?_, by simp⟩
    obtain ⟨before, f, after, hf⟩ := h.stands hfail
    exact ⟨before, f, after, hf.files, hf.finished, hf.waiting, hf.failure⟩
  · have hmove : w.Move source true w' := hmove
    refine ⟨h.sound.move hmove, h.orderly.move h.sound hmove, fun _ => hmove.standsAt h.sound h.orderly, fun hc => ?_⟩
    rw [hmove.cancelled_eq] at hc
    exact hmove.readsInOrder h.orderly hc (h.reads hc)

theorem wasRead_run_never (source : FileSource) (t : Task) :
    (Progress.done (t.run source .never 0)).wasRead = true := by
  unfold Task.run
  cases source.read t.path <;> rfl

/-- A file that is done came out as it does in a scan that nobody cancels. -/
theorem Sound.run_eq (h : Sound source plan w) (hc : w.cancelled = false) {f : FileWork} (hf : f ∈ w.files)
    {run : FileRun} (hdone : f.progress = .done run) : run = f.task.run source .never 0 := by
  have hreached := h.reached f hf
  rw [hdone] at hreached
  obtain ⟨i, hi, rfl⟩ := hreached
  rw [hi hc]

/-- A single worker whom nobody cancels fails with the first match that is refused, and has read the files up to it. -/
theorem Sequential.firstFailure (h : Sequential source plan w) (hc : w.cancelled = false) {e : HookFailure}
    (he : w.failure = some e) : ∃ upTo, FirstFailure source plan upTo e ∧ w.reads = upTo.map (·.path) := by
  obtain ⟨before, f, after, hat⟩ := h.stands (by simp [he])
  obtain ⟨run, hrun, hfailure⟩ := Option.bind_eq_some_iff.1 (hat.failure.symm.trans he)
  have hdone : f.progress = .done run := by
    cases hp : f.progress <;> simp_all [Progress.run?]
  obtain rfl := h.sound.run_eq hc (by simp [hat.files]) hdone
  have hplan : plan = before.map (·.task) ++ f.task :: after.map (·.task) := by
    rw [← h.sound.tasks, hat.files]
    simp
  refine ⟨before.map (·.task) ++ [f.task], hplan ▸ firstFailure_of_run _ _ (fun u hu => ?_) hfailure, ?_⟩
  · obtain ⟨g, hg, rfl⟩ := List.mem_map.1 hu
    obtain ⟨run, hdone, hnone⟩ := hat.finished g hg
    obtain rfl := h.sound.run_eq hc (by simp [hat.files, hg]) hdone
    exact Task.failure?_run_never.1 hnone
  · have hbefore : before.filter (·.progress.wasRead) = before := by
      refine List.filter_eq_self.2 fun g hg => ?_
      obtain ⟨run, hdone, -⟩ := hat.finished g hg
      obtain rfl := h.sound.run_eq hc (by simp [hat.files, hg]) hdone
      rw [hdone, wasRead_run_never]
    have hafter : after.filter (·.progress.wasRead) = [] := by
      refine List.filter_eq_nil_iff.2 fun g hg => ?_
      simp [hat.waiting g hg, Progress.wasRead]
    rw [h.reads hc, hat.files, List.filter_append, List.filter_cons, hbefore, hafter, hdone, wasRead_run_never]
    simp [Function.comp_def]

end Workers

/-! ## What a scan fails with -/

theorem Workers.result_eq_error {w : Workers} {e : HookFailure} : w.result = .error e ↔ w.failure = some e := by
  unfold result
  cases w.failure <;> simp

theorem Task.not_unfailing_iff : ¬t.Unfailing source ↔ ∃ text, source.read t.path = .ok text ∧
    ∃ r ∈ t.rules, ∃ span ∈ (r.finder.findAll text).spans, r.Refuses t.path text span := by
  simp only [unfailing_iff, Rule.Builds, not_forall, exists_prop, ← fault?_eq_none, ← Rule.build_error_iff,
    ← fault?_eq_some, ← Option.ne_none_iff_exists', ne_eq]

theorem Finder.spans_precede (f : Finder) (text : List Char) : (f.findAll text).spans.IsChain Span.Precedes := by
  cases f with
  | pattern p => exact p.findAll_precedes text
  | grammar m => exact (m.findAll_wellPlaced Matcher.maxNesting text).spans_precede

namespace Scanner

variable {s : Scanner} {schedule : List Action}

/-- Without cancellation the failure of a scan is that of a file of its plan. -/
theorem exists_run_of_work_error {parallelism : Option Nat} (hc : .cancel ∉ schedule) {e : HookFailure}
    (he : (s.work parallelism schedule source).result = .error e) :
    ∃ t ∈ s.plan source, (t.run source .never 0).failure? = some e := by
  have hsound := Workers.work_sound s parallelism schedule source
  obtain ⟨run, hrun, hfailure⟩ := hsound.failed e (Workers.result_eq_error.1 he)
  obtain ⟨f, hf, hdone⟩ := List.mem_filterMap.1 hrun
  have hdone : f.progress = .done run := by
    cases hp : f.progress <;> simp_all [Progress.run?]
  obtain rfl := hsound.run_eq (Workers.work_not_cancelled s parallelism source hc) hf hdone
  exact ⟨f.task, hsound.tasks ▸ List.mem_map.2 ⟨f, hf, rfl⟩, hfailure⟩

/-- A single worker whom nobody cancels comes to what a scan of one file after the other comes to. -/
theorem work_single_eq_scan (hc : .cancel ∉ schedule) :
    (s.work (some 1) schedule source).result = (s.scan source .never).2 := by
  have hseq := Workers.work_sequential s schedule source
  have hcancelled := Workers.work_not_cancelled s (some 1) source hc
  rw [scan_never_eq]
  cases hfail : (s.work (some 1) schedule source).failure with
  | some e =>
    obtain ⟨upTo, hfirst, -⟩ := hseq.firstFailure hcancelled hfail
    rw [fullRuns, hfirst.findSome?_failure, Workers.result_eq_error.2 hfail]
  | none =>
    have hruns := hseq.sound.runs_of_not_cancelled (Workers.work_over s (some 1) schedule source) hfail hcancelled
    have hnone := List.findSome?_eq_none_iff.2 (hseq.sound.unfailed hfail)
    rw [hruns] at hnone
    rw [fullRuns, hnone, Workers.result, hfail, hruns, hcancelled]

/-- Workers whom nobody cancels report a failure exactly if a match of the plan is refused, and it is that of such a match.
A single worker, like a scan of one file after the other, reports the first of them and reads the files up to it. Files
are planned in the order of their paths, rules as they were loaded, and matches come from left to right. -/
theorem work_failure (s : Scanner) (source : FileSource) (parallelism : Option Nat) (schedule : List Action)
    (hc : .cancel ∉ schedule) :
    let w := s.work parallelism schedule source
    ((∃ e, w.result = .error e) ↔ ∃ t ∈ s.plan source, ∃ text, source.read t.path = .ok text ∧
      ∃ r ∈ t.rules, ∃ span ∈ (r.finder.findAll text).spans, r.Refuses t.path text span) ∧
    (∀ e, w.result = .error e → ∃ t ∈ s.plan source, ∃ text, source.read t.path = .ok text ∧
      ∃ r ∈ t.rules, ∃ span ∈ (r.finder.findAll text).spans, ∃ reason,
        r.build t.path text span = .error reason ∧ e = ⟨r.name, t.path, reason⟩) ∧
    (parallelism = some 1 → w.result = (s.scan source .never).2 ∧ ∀ e, w.result = .error e ↔
      ∃ upTo, FirstFailure source (s.plan source) upTo e ∧ w.reads = upTo.map (·.path)) ∧
    (s.plan source).Pairwise (fun t u => Path.compare t.path u.path = .lt) ∧
    (∀ t ∈ s.plan source, t.rules = s.rules.rules.flatMap fun r =>
      List.replicate ((r.select (s.candidates source)).countP (Path.same t.path)) r) ∧
    ∀ (f : Finder) (text : List Char), (f.findAll text).spans.IsChain Span.Precedes := by
  intro w
  have hmatch : ∀ e, w.result = .error e → ∃ t ∈ s.plan source, ∃ text, source.read t.path = .ok text ∧
      ∃ r ∈ t.rules, ∃ span ∈ (r.finder.findAll text).spans, ∃ reason,
        r.build t.path text span = .error reason ∧ e = ⟨r.name, t.path, reason⟩ := by
    intro e he
    obtain ⟨t, ht, hfailure⟩ := exists_run_of_work_error hc he
    obtain ⟨u, hu, hmatch⟩ := (firstFailure_of_run [] [] (by simp) hfailure).exists_error
    obtain rfl : u = t := by simpa using hu
    exact ⟨u, ht, hmatch⟩
  refine ⟨⟨?_, ?_⟩, hmatch, ?_, Plan.make_increasing _ _, fun t ht => Plan.rules_eq ht, Finder.spans_precede⟩
  · rintro ⟨e, he⟩
    obtain ⟨t, ht, text, hread, r, hr, span, hspan, reason, herror, -⟩ := hmatch e he
    exact ⟨t, ht, text, hread, r, hr, span, hspan, Rule.build_error_iff.1 ⟨reason, herror⟩⟩
  · rintro ⟨t, ht, hrefused⟩
    exact work_error parallelism ⟨t, ht, Task.not_unfailing_iff.2 hrefused⟩ hc
  · rintro rfl
    have hscan : w.result = (s.scan source .never).2 := work_single_eq_scan hc
    refine ⟨hscan, fun e => ⟨fun he => ?_, ?_⟩⟩
    · exact (Workers.work_sequential s schedule source).firstFailure
        (Workers.work_not_cancelled s (some 1) source hc) (Workers.result_eq_error.1 he)
    · rintro ⟨upTo, hfirst, -⟩
      rw [hscan, scan_never_eq, fullRuns, hfirst.findSome?_failure]

/-- Is content with lock files, and leaves every other file. -/
def stray : Hook := fun m =>
  if m.path = "a.lock" then .ok [] else .ok [m.complaint, { m.complaint with span := ⟨0, 99⟩ }]

/-- Of the four files the second is the first that fails, and the last that is read. -/
theorem stray_work_failure : ∃ rules e, (RuleSet.load [inlineSource [Plan.todo, { fixme with hook := some stray }]] {}).2 =
      .ok rules ∧
    e = ⟨"fixme", "a.py", "hook emitted span 0..99 outside a file of 10 bytes"⟩ ∧
    let w := work ⟨rules, []⟩ (some 1) [] notes
    w.result = .error e ∧ w.reads = ["a.lock", "a.py"] ∧
      ∃ upTo, FirstFailure notes (plan ⟨rules, []⟩ notes) upTo e ∧ upTo.map (·.path) = ["a.lock", "a.py"] := by
  have h : ((RuleSet.load [inlineSource [Plan.todo, { fixme with hook := some stray }]] {}).2.toOption.map fun rules =>
      let w := work ⟨rules, []⟩ (some 1) [] notes
      (w.failure, w.reads)) =
      some (some ⟨"fixme", "a.py", "hook emitted span 0..99 outside a file of 10 bytes"⟩, ["a.lock", "a.py"]) := by
    simp only [work, plan, Plan.make_eq_insertSort]
    decide +kernel
  obtain ⟨rules, hload, heq⟩ := toOption_map_ok h
  obtain ⟨hfailure, hreads⟩ := Prod.mk.inj heq
  have hresult := Workers.result_eq_error.2 hfailure
  obtain ⟨-, -, hsingle, -⟩ := work_failure ⟨rules, []⟩ notes (some 1) [] (by simp)
  obtain ⟨upTo, hfirst, hupTo⟩ := ((hsingle rfl).2 _).1 hresult
  exact ⟨rules, _, hload, rfl, hresult, hreads, upTo, hfirst, hupTo.symm.trans hreads⟩

end Scanner

end PatternLint
