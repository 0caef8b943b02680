import Mathlib.Data.List.Forall2
import PatternLint.Proofs.Scan.Plan
import PatternLint.Proofs.Scan.Trace
import PatternLint.Scan.Workers
/-!
# What workers do

`Move` says what one step of a worker does to the state of a scan, and every fact about schedules comes from it by
induction. A scan comes to its end under every schedule (`work_over`). Each file that is done came out as it does in a
scan that is interrupted at some point, or at none if nobody cancelled (`Sound.reached`). So a schedule without
cancellation has no influence on what the files come to (`runs_of_not_cancelled`).
-/
namespace PatternLint

variable {source : FileSource} {t : Task} {cancelled : Bool}

/-! ## One file -/

namespace Progress

/-- What is known of a file that has come so far. -/
def Reached (source : FileSource) (t : Task) (cancelled : Bool) : Progress → Prop
  | waiting | begun => True
  | running text ran left => source.read t.path = .ok text ∧ ∃ pre, t.rules = pre ++ left ∧
      (∀ r ∈ pre, (r.run t.path text).failed = false) ∧ ran = pre.map (·.run t.path text)
  | done run => ∃ i : Interrupt, (cancelled = false → i = .never) ∧ run = t.run source i 0

theorem Reached.cancel {p : Progress} (h : p.Reached source t cancelled) : p.Reached source t true := by
  cases p with
  | waiting | begun => trivial
  | running text ran left => exact h
  | done run =>
    obtain ⟨i, -, hi⟩ := h
    exact ⟨i, by simp, hi⟩

/-- A file that some rules ran on is scanned further as if it were scanned anew. -/
theorem run_of_running {text : List Char} {pre left : List Rule} (hr : source.read t.path = .ok text)
    (hrules : t.rules = pre ++ left) (hok : ∀ r ∈ pre, (r.run t.path text).failed = false) (stop : Nat → Bool)
    (hgo : ∀ j < pre.length, stop j = false) :
    t.run source ⟨fun _ => false, fun _ => stop, fun _ => false⟩ 0 =
      .scanned t.path (pre.map (·.run t.path text) ++ runRules stop t.path text pre.length left) := by
  have hrun := runRules_append stop pre left 0 hok (by simpa using hgo)
  simp [Task.run, hr, hrules, hrun]

theorem step_reached {p : Progress} (h : p.Reached source t cancelled) :
    (p.step source t cancelled).1.Reached source t cancelled := by
  cases p with
  | waiting =>
    cases cancelled with
    | false => trivial
    | true => exact ⟨⟨fun _ => true, fun _ _ => true, fun _ => true⟩, by simp, by simp [Task.run]⟩
  | begun =>
    simp only [step]
    cases hr : source.read t.path with
    | error reason => exact ⟨.never, fun _ => rfl, by simp [Task.run, Interrupt.never, hr]⟩
    | ok text => exact ⟨hr, [], by simp⟩
  | running text ran left =>
    obtain ⟨hr, pre, hrules, hok, rfl⟩ := h
    have hrun := run_of_running hr hrules hok
    have hnever : t.run source .never 0 = _ := hrun (fun _ => false) fun _ _ => rfl
    cases left with
    | nil => exact ⟨.never, fun _ => rfl, by simp [hnever, runRules]⟩
    | cons r left =>
      simp only [step]
      split
      · -- cancelled before this rule, which is not the first
        rename_i hstop
        simp only [List.isEmpty_map, Bool.and_eq_true, Bool.not_eq_true', List.isEmpty_eq_false_iff_exists_mem] at hstop
        have hpos : 0 < pre.length := List.length_pos_iff_exists_mem.2 hstop.1
        have hstopped := hrun (fun j => pre.length ≤ j) (by simp)
        exact ⟨_, by simp [hstop.2], by simpa [runRules, hpos] using hstopped.symm⟩
      · cases hfail : (r.run t.path text).failed with
        | true => exact ⟨.never, fun _ => rfl, by simp [hnever, runRules, hfail]⟩
        | false =>
          refine ⟨hr, pre ++ [r], by simp [hrules], fun q hq => ?_, by simp⟩
          rcases List.mem_append.1 hq with hq | hq
          · exact hok q hq
          · exact List.mem_singleton.1 hq ▸ hfail
  | done run => exact h

theorem stepsLeft_step (source : FileSource) (t : Task) (cancelled : Bool) {p : Progress} (h : p.run? = none) :
    (p.step source t cancelled).1.stepsLeft t < p.stepsLeft t := by
  cases p with
  | waiting => cases cancelled <;> simp [step, stepsLeft]
  | begun => cases hr : source.read t.path <;> simp [step, stepsLeft, hr]
  | running text ran left =>
    cases left with
    | nil => simp [step, stepsLeft]
    | cons r left =>
      simp only [step]
      split
      · simp [stepsLeft]
      · split <;> simp [stepsLeft]
  | done run => simp [run?] at h

/-- A step is seen as nothing, as a look at the cancellation, or as the reading of a file that was begun. -/
theorem signals_step (source : FileSource) (t : Task) (cancelled : Bool) (p : Progress) :
    (p.step source t cancelled).2 = [] ∨
    (p.step source t cancelled).2 = [.polled cancelled] ∨
    (p = begun ∧ (p.step source t cancelled).2 = [.read t.path]) := by
  cases p with
  | waiting => simp [step]
  | begun => cases hr : source.read t.path <;> simp [step, hr]
  | running text ran left =>
    cases left with
    | nil => simp [step]
    | cons r left =>
      simp only [step]
      split <;> cases ran <;> simp
  | done run => simp [step]

/-- Once a scan is cancelled, no file is begun. -/
theorem step_ne_begun (source : FileSource) (t : Task) (p : Progress) : (p.step source t true).1 ≠ begun := by
  cases p with
  | waiting => simp [step]
  | begun => cases hr : source.read t.path <;> simp [step, hr]
  | running text ran left =>
    cases left with
    | nil => simp [step]
    | cons r left =>
      simp only [step]
      split
      · simp
      · split <;> simp
  | done run => simp [step]

end Progress

/-! ## One step -/

namespace Workers

variable {inOrder : Bool} {plan : List Task} {w w' : Workers}

/-- No step can be made any more. -/
def Over (w : Workers) : Prop := w.failure ≠ none ∨ ∀ f ∈ w.files, f.isOpen = false

/-- What a step does: it brings one file further that is not done, the first of them if files are taken in order. -/
inductive Move (source : FileSource) (inOrder : Bool) (w : Workers) : Workers → Prop
  | mk {before after : List FileWork} {f : FileWork} (files : w.files = before ++ f :: after) (isOpen : f.isOpen)
      (unfailed : w.failure = none) (first : inOrder → ∀ g ∈ before, g.isOpen = false) :
      Move source inOrder w
        { files := before ++ { f with progress := (f.progress.step source f.task w.cancelled).1 } :: after
          cancelled := w.cancelled
          failure := (f.progress.step source f.task w.cancelled).1.run?.bind FileRun.failure?
          log := w.log ++ (f.progress.step source f.task w.cancelled).2 }

theorem turn_spec (inOrder : Bool) (h : ∃ f ∈ w.files, f.isOpen) (file : Nat) :
    ∃ f, w.files[w.turn inOrder file]? = some f ∧ f.isOpen ∧
      (inOrder → ∀ g ∈ w.files.take (w.turn inOrder file), g.isOpen = false) := by
  unfold turn
  split
  · rename_i hask
    simp only [Bool.and_eq_true, Bool.not_eq_true', Option.any_eq_true] at hask
    obtain ⟨hany, f, hf, hopen⟩ := hask
    exact ⟨f, hf, hopen, by simp [hany]⟩
  · have hlt : w.files.findIdx (·.isOpen) < w.files.length := List.findIdx_lt_length.2 h
    refine ⟨_, List.getElem?_eq_getElem hlt, List.findIdx_getElem, fun _ g hg => ?_⟩
    obtain ⟨j, hj, rfl⟩ := List.mem_take_iff_getElem.1 hg
    simpa using List.not_of_lt_findIdx (Nat.lt_min.1 hj).1

/-- As long as the scan is not over, every step brings a file further. -/
theorem act_step (h : ¬w.Over) (file : Nat) : w.Move source inOrder (w.act source inOrder (.step file)) := by
  simp only [Over, not_or, not_not, not_forall, Bool.not_eq_false, exists_prop] at h
  obtain ⟨f, hf, hopen, hfirst⟩ := turn_spec inOrder h.2 file
  obtain ⟨hlt, heq⟩ := List.getElem?_eq_some_iff.1 hf
  have hfiles : w.files = w.files.take (w.turn inOrder file) ++ f :: w.files.drop (w.turn inOrder file + 1) := by
    rw [← heq, ← List.drop_eq_getElem_cons hlt, List.take_append_drop]
  have hmove : w.Move source inOrder _ := .mk hfiles hopen h.1 hfirst
  simp only [act, h.1, hf, List.set_eq_take_append_cons_drop, hlt, if_true]
  exact hmove

theorem act_step_of_over (h : w.Over) (file : Nat) : w.act source inOrder (.step file) = w := by
  rcases h with hfail | hdone
  · obtain ⟨failure, hfail⟩ := Option.ne_none_iff_exists'.1 hfail
    simp [act, hfail]
  · have hturn : w.turn inOrder file = w.files.length := by
      have hask : w.files[file]?.any (·.isOpen) = false := by
        cases hf : w.files[file]? with
        | none => rfl
        | some f => exact hdone f (List.mem_of_getElem? hf)
      rw [turn, hask, Bool.and_false, if_neg (by simp), List.findIdx_eq_length.2 hdone]
    simp [act, hturn]

/-- What every step of a worker and every cancellation keeps is kept by every schedule. -/
theorem foldl_act {P : Workers → Prop} (hcancel : ∀ w, P w → P { w with cancelled := true })
    (hmove : ∀ w w', w.Move source inOrder w' → P w → P w') (schedule : List Action) :
    ∀ w, P w → P (schedule.foldl (act source inOrder) w) := by
  induction schedule with
  | nil => exact fun w h => h
  | cons a schedule ih =>
    intro w h
    refine ih _ ?_
    cases a with
    | cancel => exact hcancel w h
    | step file =>
      by_cases hover : w.Over
      · exact (act_step_of_over hover file).symm ▸ h
      · exact hmove w _ (act_step hover file) h

namespace Move

variable (h : w.Move source inOrder w')

include h

theorem cancelled_eq : w'.cancelled = w.cancelled := by
  cases h
  rfl

theorem failure_eq_none : w.failure = none := by
  cases h
  assumption

theorem tasks_eq : w'.files.map (·.task) = w.files.map (·.task) := by
  cases h with
  | mk hfiles _ _ _ => simp [hfiles]

/-- A file is as it was before the step, or it is the one that the step was made with. -/
theorem mem_files {g : FileWork} (hg : g ∈ w'.files) : g ∈ w.files ∨
    ∃ f ∈ w.files, g = { f with progress := (f.progress.step source f.task w.cancelled).1 } ∧
      w'.failure = g.progress.run?.bind FileRun.failure? := by
  cases h with
  | @mk before after f hfiles _ _ _ =>
    rw [hfiles]
    rcases List.mem_append.1 hg with hg | hg
    · exact .inl (by simp [hg])
    · rcases List.mem_cons.1 hg with rfl | hg
      · exact .inr ⟨f, by simp, rfl, rfl⟩
      · exact .inl (by simp [hg])

theorem exists_of_failure {e : HookFailure} (he : w'.failure = some e) : ∃ run ∈ w'.runs, run.failure? = some e := by
  cases h with
  | mk _ _ _ _ =>
    obtain ⟨run, hrun, he⟩ := Option.bind_eq_some_iff.1 he
    exact ⟨run, by simp [runs, hrun], he⟩

/-- What is seen of a step. -/
theorem log_eq : w'.log = w.log ∨ w'.log = w.log ++ [.polled w.cancelled] ∨
    ∃ f ∈ w.files, f.progress = .begun ∧ w'.log = w.log ++ [.read f.task.path] := by
  cases h with
  | @mk before after f hfiles _ _ _ =>
    rcases f.progress.signals_step source f.task w.cancelled with hs | hs | ⟨hbegun, hs⟩
    · exact .inl (by simp [hs])
    · exact .inr (.inl (by simp [hs]))
    · exact .inr (.inr ⟨f, by simp [hfiles], hbegun, by simp [hs]⟩)

end Move

/-! ## The end of a scan -/

/-- The steps that are left are those of one file and of all others. -/
theorem stepsLeft_eq (before after : List FileWork) : ∃ n, ∀ (f : FileWork) (w : Workers),
    w.files = before ++ f :: after → w.stepsLeft = f.progress.stepsLeft f.task + n := by
  refine ⟨(before ++ after).foldr (fun f n => f.progress.stepsLeft f.task + n) 0, fun f w hfiles => ?_⟩
  rw [stepsLeft, hfiles]
  clear hfiles
  induction before with
  | nil => rfl
  | cons b before ih =>
    simp only [List.cons_append, List.foldr_cons, ih]
    omega

theorem Move.stepsLeft_lt (h : w.Move source inOrder w') : w'.stepsLeft < w.stepsLeft := by
  cases h with
  | @mk before after f hfiles hopen _ _ =>
    have hstep := f.progress.stepsLeft_step source f.task w.cancelled (Option.isNone_iff_eq_none.1 hopen)
    obtain ⟨n, hn⟩ := stepsLeft_eq before after
    rw [hn f w hfiles, hn _ _ rfl]
    exact Nat.add_lt_add_right hstep n

theorem over_of_stepsLeft (h : w.stepsLeft = 0) : w.Over := by
  refine .inr fun f hf => ?_
  have hleft : f.progress.stepsLeft f.task = 0 := by
    obtain ⟨before, after, hfiles⟩ := List.append_of_mem hf
    obtain ⟨n, hn⟩ := stepsLeft_eq before after
    have := hn f w hfiles
    omega
  cases hp : f.progress <;> simp_all [FileWork.isOpen, Progress.stepsLeft, Progress.run?]

theorem over_foldl_replicate (n : Nat) (w : Workers) (h : w.stepsLeft ≤ n) :
    ((List.replicate n (.step 0)).foldl (act source inOrder) w).Over := by
  induction n generalizing w with
  | zero => exact over_of_stepsLeft (Nat.le_zero.1 h)
  | succ n ih =>
    rw [List.replicate_succ, List.foldl_cons]
    by_cases hover : w.Over
    · rw [act_step_of_over hover]
      have hstay : ∀ k, (List.replicate k (.step 0)).foldl (act source inOrder) w = w := by
        intro k
        induction k with
        | zero => rfl
        | succ k ih => rw [List.replicate_succ, List.foldl_cons, act_step_of_over hover, ih]
      rw [hstay]
      exact hover
    · have hmove : w.Move source inOrder _ := act_step hover 0
      have hlt := hmove.stepsLeft_lt
      exact ih _ (by omega)

/-- A scan comes to its end, whatever the schedule. -/
theorem work_over (s : Scanner) (parallelism : Option Nat) (schedule : List Action) (source : FileSource) :
    (s.work parallelism schedule source).Over := by
  unfold Scanner.work
  rw [List.foldl_append]
  refine over_foldl_replicate _ _ ?_
  refine foldl_act (P := fun w => w.stepsLeft ≤ (start (s.plan source)).stepsLeft) (fun w h => h) ?_ schedule _ le_rfl
  exact fun w w' hmove h => hmove.stepsLeft_lt.le.trans h

/-! ## What holds under every schedule -/

/-- What holds at all times of a scan. -/
structure Sound (source : FileSource) (plan : List Task) (w : Workers) : Prop where
  tasks : w.files.map (·.task) = plan
  reached : ∀ f ∈ w.files, f.progress.Reached source f.task w.cancelled
  unfailed : w.failure = none → ∀ run ∈ w.runs, run.failure? = none
  failed : ∀ e, w.failure = some e → ∃ run ∈ w.runs, run.failure? = some e
  /-- A worker that saw the cancellation saw what had happened. -/
  seen : .polled true ∈ w.log → w.cancelled
  /-- What was once seen cancelled is not seen otherwise later on. -/
  steady : w.log.Pairwise fun a b => a = .polled true → b ≠ .polled false

theorem Sound.start (source : FileSource) (plan : List Task) : Sound source plan (start plan) where
  tasks := by simp [Workers.start, Function.comp_def]
  reached f hf := by
    obtain ⟨t, -, rfl⟩ := List.mem_map.1 hf
    trivial
  unfailed _ run hrun := by simp [Workers.start, runs, Progress.run?] at hrun
  failed := by simp [Workers.start]
  seen := by simp [Workers.start]
  steady := .nil

theorem Sound.cancel (h : Sound source plan w) : Sound source plan { w with cancelled := true } where
  tasks := h.tasks
  reached f hf := (h.reached f hf).cancel
  unfailed := h.unfailed
  failed := h.failed
  seen _ := rfl
  steady := h.steady

theorem Sound.move (h : Sound source plan w) (hmove : w.Move source inOrder w') : Sound source plan w' where
  tasks := hmove.tasks_eq.trans h.tasks
  reached g hg := by
    rw [hmove.cancelled_eq]
    rcases hmove.mem_files hg with hg | ⟨f, hf, rfl, -⟩
    · exact h.reached g hg
    · exact Progress.step_reached (h.reached f hf)
  unfailed hnone run hrun := by
    obtain ⟨g, hg, hrun⟩ := List.mem_filterMap.1 hrun
    rcases hmove.mem_files hg with hg | ⟨f, -, -, hfailure⟩
    · exact h.unfailed hmove.failure_eq_none run (List.mem_filterMap.2 ⟨g, hg, hrun⟩)
    · rw [hnone, hrun] at hfailure
      exact hfailure.symm
  failed _ := hmove.exists_of_failure
  seen hmem := by
    rw [hmove.cancelled_eq]
    rcases hmove.log_eq with hlog | hlog | ⟨f, -, -, hlog⟩ <;> rw [hlog] at hmem
    · exact h.seen hmem
    · rcases List.mem_append.1 hmem with hmem | hmem
      · exact h.seen hmem
      · simpa using hmem
    · exact h.seen (by simpa using hmem)
  steady := by
    rcases hmove.log_eq with hlog | hlog | ⟨f, -, -, hlog⟩ <;> rw [hlog]
    · exact h.steady
    · refine List.pairwise_append.2 ⟨h.steady, List.pairwise_singleton _ _, fun a ha b hb hpolled => ?_⟩
      rw [List.mem_singleton.1 hb, h.seen (hpolled ▸ ha)]
      simp
    · refine List.pairwise_append.2 ⟨h.steady, List.pairwise_singleton _ _, fun a _ b hb _ => ?_⟩
      rw [List.mem_singleton.1 hb]
      simp

theorem work_sound (s : Scanner) (parallelism : Option Nat) (schedule : List Action) (source : FileSource) :
    Sound source (s.plan source) (s.work parallelism schedule source) :=
  foldl_act (fun _ h => h.cancel) (fun _ _ hmove h => h.move hmove) _ _ (.start source _)

/-! ## What the files come to -/

/-- Once a scan is over without a failure, every file came out as in a scan that is interrupted at some point, or at none
if nobody cancelled. -/
theorem Sound.runs_forall₂ (h : Sound source plan w) (hover : w.Over) (hnone : w.failure = none) :
    List.Forall₂ (fun t run => ∃ i : Interrupt, (w.cancelled = false → i = .never) ∧ run = t.run source i 0)
      plan w.runs := by
  -- by induction on the files, which are all done
  have hdone : ∀ f ∈ w.files, f.isOpen = false := hover.resolve_left (not_not.2 hnone)
  have hreached := h.reached
  rw [← h.tasks]
  unfold runs
  generalize w.files = files at hdone hreached
  induction files with
  | nil => exact .nil
  | cons f files ih =>
    have ih := ih (fun g hg => hdone g (by simp [hg])) fun g hg => hreached g (by simp [hg])
    have hf := hreached f (by simp)
    cases hp : f.progress with
    | done run =>
      rw [hp] at hf
      rw [List.filterMap_cons, hp]
      exact .cons hf ih
    | _ =>
      have := hdone f (by simp)
      simp [FileWork.isOpen, hp, Progress.run?] at this

theorem Sound.runs_of_not_cancelled (h : Sound source plan w) (hover : w.Over) (hnone : w.failure = none)
    (hc : w.cancelled = false) : w.runs = plan.map (·.run source .never 0) := by
  have hruns : List.Forall₂ (fun t run => run = t.run source .never 0) plan w.runs := by
    refine (h.runs_forall₂ hover hnone).imp fun t run => ?_
    rintro ⟨i, hi, rfl⟩
    rw [hi hc]
  rw [← List.forall₂_eq_eq_eq, List.forall₂_map_right_iff]
  exact hruns.flip

theorem work_not_cancelled (s : Scanner) (parallelism : Option Nat) {schedule : List Action} (source : FileSource)
    (h : .cancel ∉ schedule) : (s.work parallelism schedule source).cancelled = false := by
  have hact : ∀ (schedule : List Action) (w : Workers), .cancel ∉ schedule → w.cancelled = false →
      (schedule.foldl (act source (parallelism == some 1)) w).cancelled = false := by
    intro schedule
    induction schedule with
    | nil => exact fun w _ hw => hw
    | cons a schedule ih =>
      intro w hmem hw
      refine ih _ (fun hc => hmem (by simp [hc])) ?_
      cases a with
      | cancel => simp at hmem
      | step file =>
        by_cases hover : w.Over
        · rwa [act_step_of_over hover]
        · rwa [(act_step hover file).cancelled_eq]
  exact hact _ _ (by simpa using h) rfl

/-- A scan whose files no hook fails on ends without a failure. -/
theorem Sound.failure_eq_none (h : Sound source plan w) (hplan : ∀ t ∈ plan, t.Unfailing source ∧ t.rules ≠ []) :
    w.failure = none := by
  by_contra hfail
  obtain ⟨e, he⟩ := Option.ne_none_iff_exists'.1 hfail
  obtain ⟨run, hrun, hfailure⟩ := h.failed e he
  obtain ⟨f, hf, hdone⟩ := List.mem_filterMap.1 hrun
  have hreached := h.reached f hf
  cases hp : f.progress with
  | done run' =>
    rw [hp] at hdone hreached
    obtain rfl : run' = run := Option.some.inj hdone
    obtain ⟨i, -, rfl⟩ := hreached
    obtain ⟨hunfailing, hne⟩ := hplan f.task (h.tasks ▸ List.mem_map.2 ⟨f, hf, rfl⟩)
    rw [(Task.run_scannedPart hunfailing hne i 0).failure? hunfailing] at hfailure
    cases hfailure
  | _ => simp [hp, Progress.run?] at hdone

end Workers

namespace Scanner

variable {s : Scanner} (parallelism : Option Nat) {schedule : List Action}

/-- Workers whom nobody cancels scan every file by all of its rules. -/
theorem work_runs_of_unfailing (h : ∀ t ∈ s.plan source, t.Unfailing source) (hc : .cancel ∉ schedule) :
    (s.work parallelism schedule source).failure = none ∧
      (s.work parallelism schedule source).runs = s.fullRuns source := by
  have hsound := Workers.work_sound s parallelism schedule source
  have hnone := hsound.failure_eq_none fun t ht => ⟨h t ht, Plan.rules_ne_nil ht⟩
  exact ⟨hnone, hsound.runs_of_not_cancelled (Workers.work_over s parallelism schedule source) hnone
    (Workers.work_not_cancelled s parallelism source hc)⟩

theorem work_result_of_unfailing (h : ∀ t ∈ s.plan source, t.Unfailing source) (hc : .cancel ∉ schedule) :
    (s.work parallelism schedule source).result = .ok (gather (s.fullRuns source) false) := by
  obtain ⟨hnone, hruns⟩ := work_runs_of_unfailing parallelism h hc
  rw [Workers.result, hnone, hruns, Workers.work_not_cancelled s parallelism source hc]

/-- Workers whom nobody cancels come upon a hook that fails, if there is one. -/
theorem work_error (h : ∃ t ∈ s.plan source, ¬t.Unfailing source) (hc : .cancel ∉ schedule) :
    ∃ e, (s.work parallelism schedule source).result = .error e := by
  have hsound := Workers.work_sound s parallelism schedule source
  cases hfail : (s.work parallelism schedule source).failure with
  | some e => exact ⟨e, by rw [Workers.result, hfail]⟩
  | none =>
    have hruns := hsound.runs_of_not_cancelled (Workers.work_over s parallelism schedule source) hfail
      (Workers.work_not_cancelled s parallelism source hc)
    obtain ⟨t, ht, hunfailing⟩ := h
    refine absurd (Task.failure?_run_never.1 (hsound.unfailed hfail (t.run source .never 0) ?_)) hunfailing
    rw [hruns]
    exact List.mem_map.2 ⟨t, ht, rfl⟩

end Scanner

/-! ## A small scan -/

def fixme : RuleDefinition where
  name := "fixme"
  description := "FIXME left in code"
  capture := some (.pattern "FIXME" {})
  severity := some .critical
  included := ["*"]

/-- Candidates out of order, of which one cannot be read. -/
def notes : FileSource where
  candidates := ["b.py", "gone.py", "a.py", "a.lock"]
  read path := if path = "gone.py" then .error (.notFound path) else .ok "TODO FIXME".toList

theorem notes_distinct : Plan.Distinct notes.candidates := by
  unfold Plan.Distinct
  decide +kernel

/-- A scanner with two rules that leaves lock files out. -/
def notesScanner : Except LoadError Scanner := do
  Scanner.make (← (RuleSet.load [inlineSource [Plan.todo, fixme]] {}).2) ["*.lock"] {}

end PatternLint
