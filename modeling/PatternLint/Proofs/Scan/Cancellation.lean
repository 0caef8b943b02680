import PatternLint.Proofs.Scan.Workers
/-!
# Scans that are cancelled

A scan can be cancelled at any moment, between any two steps of any workers. Main statement: if the scan would have
succeeded, the cancelled one succeeds as well, and what it reports is part of the full report in the same order. Each
file is left out or was looked at by a beginning of its rules, and a report that is not marked as interrupted is the
full one. A single worker reads no file after it saw the cancellation.
-/
namespace PatternLint

namespace Workers

variable {source : FileSource} {plan : List Task} {w w' : Workers}

/-! ## Files taken in order -/

/-- What holds at all times if files are taken in order. -/
structure Orderly (w : Workers) : Prop where
  /-- Before a file is begun, all files before it are done. -/
  inTurn : w.files.Pairwise fun f g => f.isOpen = false ∨ g.progress = .waiting
  /-- After the cancellation was seen, no file is about to be read. -/
  quiet : .polled true ∈ w.log → ∀ f ∈ w.files, f.progress ≠ .begun
  /-- After the cancellation was seen, no file was read. -/
  unread : w.log.Pairwise fun a b => a = .polled true → ∀ path, b ≠ .read path

theorem Orderly.start (plan : List Task) : Orderly (start plan) where
  inTurn := List.pairwise_map.2 (List.pairwise_of_forall fun _ _ => .inr rfl)
  quiet := by simp [Workers.start]
  unread := .nil

theorem Orderly.cancel (h : Orderly w) : Orderly { w with cancelled := true } := ⟨h.inTurn, h.quiet, h.unread⟩

/-- A step that is made in order after the cancellation leaves no file that is about to be read. -/
theorem Orderly.not_begun (h : Orderly w) (hmove : w.Move source true w') (hc : w.cancelled) :
    ∀ f ∈ w'.files, f.progress ≠ .begun := by
  cases hmove with
  | @mk before after f hfiles hopen _ hfirst =>
    have hturn := h.inTurn
    rw [hfiles] at hturn
    intro g hg
    -- files before `f` are done, `f` saw the cancellation, and files after it wait
    rcases List.mem_append.1 hg with hg | hg
    · intro hbegun
      simpa [FileWork.isOpen, hbegun, Progress.run?] using hfirst rfl g hg
    · rcases List.mem_cons.1 hg with rfl | hg
      · simpa [hc] using f.progress.step_ne_begun source f.task
      · rcases (List.pairwise_cons.1 (List.pairwise_append.1 hturn).2.1).1 g hg with hdone | hwait
        · simp [hopen] at hdone
        · simp [hwait]

theorem Orderly.move (h : Orderly w) (hs : Sound source plan w) (hmove : w.Move source true w') : Orderly w' where
  inTurn := by
    cases hmove with
    | @mk before after f hfiles hopen _ hfirst =>
      have hturn := h.inTurn
      rw [hfiles, List.pairwise_append, List.pairwise_cons] at hturn
      obtain ⟨hbefore, ⟨hf, hafter⟩, -⟩ := hturn
      refine List.pairwise_append.2 ⟨hbefore, List.pairwise_cons.2 ⟨fun g hg => ?_, hafter⟩, ?_⟩
      · rcases hf g hg with hdone | hwait
        · simp [hopen] at hdone
        · exact .inr hwait
      · exact fun g hg _ _ => .inl (hfirst rfl g hg)
  quiet hmem := by
    have hc := (hs.move hmove).seen hmem
    rw [hmove.cancelled_eq] at hc
    exact h.not_begun hmove hc
  unread := by
    rcases hmove.log_eq with hlog | hlog | ⟨f, hf, hbegun, hlog⟩ <;> rw [hlog]
    · exact h.unread
    · refine List.pairwise_append.2 ⟨h.unread, List.pairwise_singleton _ _, fun a _ b hb _ path => ?_⟩
      rw [List.mem_singleton.1 hb]
      simp
    · refine List.pairwise_append.2 ⟨h.unread, List.pairwise_singleton _ _, fun a ha _ _ hpolled => ?_⟩
      exact absurd hbegun (h.quiet (hpolled ▸ ha) f hf)

theorem work_orderly (s : Scanner) (schedule : List Action) (source : FileSource) :
    Orderly (s.work (some 1) schedule source) :=
  (foldl_act (P := fun w => Sound source (s.plan source) w ∧ Orderly w) (fun _ h => ⟨h.1.cancel, h.2.cancel⟩)
    (fun _ _ hmove h => ⟨h.1.move hmove, h.2.move h.1 hmove⟩) _ _ ⟨.start source _, .start _⟩).2

end Workers

/-! ## Interrupted scans -/

variable {source : FileSource} {plan : List Task} {runs : List FileRun}

theorem Task.run_congr (t : Task) {i i' : Interrupt} {k k' : Nat} (hfile : i.beforeFile k = i'.beforeFile k')
    (hrule : i.beforeRule k = i'.beforeRule k') : t.run source i k = t.run source i' k' := by
  unfold run
  rw [hfile, hrule]

/-- Files that were each interrupted at some point of their own were interrupted at some points. -/
theorem exists_interrupt (c : Bool) (h : List.Forall₂ (fun t run => ∃ i : Interrupt, run = t.run source i 0) plan runs)
    (k : Nat) : ∃ i : Interrupt, (∀ n, i.atEnd n = c) ∧ runs = plan.mapIdx fun j t => t.run source i (k + j) := by
  induction h generalizing k with
  | nil => exact ⟨⟨fun _ => c, fun _ _ => c, fun _ => c⟩, fun _ => rfl, rfl⟩
  | @cons t run plan runs hrun _ ih =>
    obtain ⟨i₀, rfl⟩ := hrun
    obtain ⟨i, -, rfl⟩ := ih (k + 1)
    -- the first file has the number `k`, all others have larger ones
    refine ⟨⟨fun n => if n = k then i₀.beforeFile 0 else i.beforeFile n,
      fun n => if n = k then i₀.beforeRule 0 else i.beforeRule n, fun _ => c⟩, fun _ => rfl, ?_⟩
    rw [List.mapIdx_cons]
    congr 1
    · exact t.run_congr (by simp) (by simp)
    · refine List.mapIdx_eq_mapIdx_iff.2 fun j hj => Task.run_congr _ ?_ ?_ <;> simp [Nat.add_assoc, Nat.add_comm 1]

theorem found_sublist_of_scannedPart (h : List.Forall₂ (ScannedPart source) plan runs) :
    (runs.flatMap FileRun.found).Sublist (plan.flatMap fun t => t.rules.flatMap (source.found t.path)) := by
  induction h with
  | nil => exact .refl _
  | cons hrun _ ih =>
    rw [List.flatMap_cons, List.flatMap_cons]
    exact hrun.found_sublist.append ih

/-- A scan that would succeed also succeeds if it is cancelled, at whatever moment and by however many workers. What they
see of the cancellation is first that there is none and then that there is one. -/
theorem Scanner.work_cancelled (s : Scanner) (source : FileSource) (full : ScanResult)
    (h : (s.scan source .never).2 = .ok full) (parallelism : Option Nat) (schedule : List Action) :
    let w := s.work parallelism schedule source
    w.log.Pairwise (fun a b => a = .polled true → b ≠ .polled false) ∧
    List.Forall₂ (ScannedPart source) (s.plan source) w.runs ∧
    ∃ r, w.result = .ok r ∧ (∃ i, (s.scan source i).2 = .ok r) ∧
      r = gather w.runs w.cancelled ∧
      r.complaints.Sublist full.complaints ∧
      r.total = r.complaints.length ∧ r.warnings = r.complaints.countP (·.severity = .warning) ∧
      r.criticals = r.complaints.countP (·.severity = .critical) ∧
      (r.interrupted = false → r = full) ∧
      (parallelism = some 1 → w.log.Pairwise fun a b => a = .polled true → ∀ path, b ≠ .read path) := by
  intro w
  obtain ⟨hunfailing, rfl⟩ := unfailing_of_scan_never h
  have hsound : w.Sound source (s.plan source) := Workers.work_sound s parallelism schedule source
  have hover : w.Over := Workers.work_over s parallelism schedule source
  have hunfailed : ∀ t ∈ s.plan source, t.Unfailing source ∧ t.rules ≠ [] :=
    fun t ht => ⟨hunfailing t ht, Plan.rules_ne_nil ht⟩
  have hnone : w.failure = none := hsound.failure_eq_none hunfailed
  have hruns := hsound.runs_forall₂ hover hnone
  have hparts : List.Forall₂ (ScannedPart source) (s.plan source) w.runs := by
    refine ((List.forall₂_and_left _ _).2 ⟨hunfailed, hruns⟩).imp fun t run => ?_
    rintro ⟨⟨ht, hne⟩, i, -, rfl⟩
    exact Task.run_scannedPart ht hne i 0
  refine ⟨hsound.steady, hparts, gather w.runs w.cancelled, by simp [Workers.result, hnone], ?_, rfl, ?_, rfl, rfl,
    (gather_counts _ _).2.2, fun hc => ?_, ?_⟩
  · have hsome : List.Forall₂ (fun t run => ∃ i : Interrupt, run = t.run source i 0) (s.plan source) w.runs := by
      refine hruns.imp fun t run => ?_
      rintro ⟨i, -, hi⟩
      exact ⟨i, hi⟩
    obtain ⟨i, hend, heq⟩ := exists_interrupt w.cancelled hsome 0
    refine ⟨i, ?_⟩
    simp only [Nat.zero_add] at heq
    rw [scan_eq, ← heq, hend, List.findSome?_eq_none_iff.2 (hsound.unfailed hnone)]
  · rw [gather_complaints, gather_complaints, fullRuns, Task.flatMap_found_run_never hunfailing]
    exact Complaint.totalLE_order.mergeSort_sublist (found_sublist_of_scannedPart hparts)
  · have hc : w.cancelled = false := hc
    rw [hsound.runs_of_not_cancelled hover hnone hc, hc]
    rfl
  · rintro rfl
    exact (Workers.work_orderly s schedule source).unread

/-- A single worker that is cancelled while it reads the first file runs one rule on it and reads no other file. -/
theorem notesScanner_work_cancelled : ∃ s full, notesScanner = .ok s ∧ (s.scan notes .never).2 = .ok full ∧
    full.total = 4 ∧
    let w := s.work (some 1) [.step 0, .step 0, .cancel] notes
    w.log = [.polled false, .read "a.py", .polled true, .polled true, .polled true] ∧
    w.log.Pairwise (fun a b => a = .polled true → ∀ path, b ≠ .read path) ∧
    List.Forall₂ (ScannedPart notes) (s.plan notes) w.runs ∧
    ∃ r, w.result = .ok r ∧ r.total = 1 ∧ r.interrupted = true ∧ r.complaints.Sublist full.complaints := by
  have h : (notesScanner.toOption.map fun s =>
      let w := s.work (some 1) [.step 0, .step 0, .cancel] notes
      ((s.scan notes .never).2.toOption.map (·.total), w.log,
        w.result.toOption.map fun r => (r.total, r.interrupted))) =
      some (some 4, [.polled false, .read "a.py", .polled true, .polled true, .polled true], some (1, true)) := by
    simp only [Scanner.work, Scanner.scan, Workers.result, Scanner.plan, Plan.make_eq_insertSort,
      Scanner.gather_eq_insertSort]
    decide +kernel
  obtain ⟨s, hs, heq⟩ := toOption_map_ok h
  simp only [Prod.mk.injEq] at heq
  obtain ⟨hscan, hlog, hresult⟩ := heq
  obtain ⟨full, hfull, htotal⟩ := toOption_map_ok hscan
  obtain ⟨-, hparts, r, hr, -, -, hsub, -, -, -, -, hunread⟩ :=
    Scanner.work_cancelled s notes full hfull (some 1) [.step 0, .step 0, .cancel]
  rw [hr] at hresult
  obtain ⟨hone, hinterrupted⟩ := Prod.mk.inj (Option.some.inj hresult)
  exact ⟨s, full, hs, hfull, htotal, hlog, hunread rfl, hparts, r, hr, hone, hinterrupted, hsub⟩

end PatternLint
