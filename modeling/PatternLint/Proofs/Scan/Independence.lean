import PatternLint.Proofs.Rule.Load
import PatternLint.Proofs.Rule.Overrides
import PatternLint.Proofs.Scan.Naive
/-!
# Reports do not depend on the order of work

The order of a report leaves complaints of one rule about one place untold apart. They come from one rule on one file,
and so they are made in one order, however rules and files are ordered (`filter_flatMap_of_perm`). Main statement: if
the hooks of rules speak for their rule and file only, then either every scan of the same rules and files ends with a
failed hook, or all of them give the same result: in whatever order rules were loaded, candidates listed, workers
stepped and outcomes put together.
-/
namespace PatternLint

variable {source source' : FileSource} {path : String} {text : List Char} {r : Rule}

/-! ## Whom complaints belong to -/

/-- The hook of the rule, if it has one, makes complaints of the rule about the file of the match only. -/
def Rule.SpeaksForItself (r : Rule) : Prop :=
  ∀ hook, r.hook = some hook → ∀ m : Match, m.rule = r.info → ∀ found, hook m = .ok found →
    ∀ c ∈ found, c.rule = r.name ∧ c.path = m.path

namespace Rule.SpeaksForItself

variable (h : r.SpeaksForItself)

include h

theorem build {span : Span} {found : List Complaint} (hb : r.build path text span = .ok found) {c : Complaint}
    (hc : c ∈ found) : c.rule = r.name ∧ c.path = path := by
  cases hhook : r.hook with
  | none =>
    rw [Rule.build_of_hook_none hhook] at hb
    obtain rfl := Except.ok.inj hb
    obtain rfl := List.mem_singleton.1 hc
    exact ⟨rfl, rfl⟩
  | some hook =>
    rw [Rule.build, hhook, Match.build_ok_iff] at hb
    obtain ⟨given, hgiven, -, hpassed⟩ := hb
    obtain ⟨c₀, hc₀, hpass⟩ := exists_of_forall₂ hpassed.flip hc
    obtain ⟨hrule₀, hpath₀⟩ := h hook hhook _ rfl given hgiven c₀ hc₀
    exact ⟨hpass.rule_eq.trans hrule₀, hpass.path_eq.trans hpath₀⟩

theorem found {c : Complaint} (hc : c ∈ source.found path r) : c.rule = r.name ∧ c.path = path := by
  unfold FileSource.found at hc
  split at hc
  · rename_i text _
    cases hrun : (r.run path text).complaints with
    | error e => simp [hrun, Except.toOption] at hc
    | ok found =>
      obtain ⟨lists, hlists, hflat⟩ := bind_ok hrun
      obtain rfl := Except.ok.inj hflat
      simp only [hrun, Except.toOption, Option.getD_some] at hc
      obtain ⟨list, hlist, hc⟩ := List.mem_flatten.1 hc
      obtain ⟨span, -, hbuild⟩ := exists_of_forall₂ (mapM_ok _ hlists).flip hlist
      exact h.build hbuild hc
  · simp at hc

end Rule.SpeaksForItself

/-! ## Order of complaints -/

/-- Where every key has one element, the things of a key come in one order, whatever the order of the elements. -/
theorem filter_flatMap_of_perm {α β κ : Type} [DecidableEq κ] (key : α → κ) {of : β → κ} {f : α → List β}
    {l l' : List α} (hp : l.Perm l') (hn : (l.map key).Nodup) (h : ∀ a ∈ l, ∀ b ∈ f a, of b = key a) (k : κ) :
    (l.flatMap f).filter (of · = k) = (l'.flatMap f).filter (of · = k) := by
  rw [filter_flatMap_key h k, filter_flatMap_key (fun a ha => h a (hp.mem_iff.2 ha)) k]
  congr 1
  have hfilter := hp.filter (key · = k)
  by_cases hk : ∃ a ∈ l, key a = k
  · obtain ⟨a, ha, rfl⟩ := hk
    rw [filter_key_of_nodup hn ha] at hfilter ⊢
    exact (List.perm_singleton.1 hfilter.symm).symm
  · have hnil : l.filter (key · = k) = [] := List.filter_eq_nil_iff.2 fun a ha hka => hk ⟨a, ha, by simpa using hka⟩
    rw [hnil] at hfilter ⊢
    exact (List.nil_perm.1 hfilter).symm

/-- What a report tells of the file and the rule that a complaint comes from. -/
def Complaint.origin (c : Complaint) : String × String := (Path.slashed c.path, c.rule)

/-- Complaints are sorted alike if those of each origin follow each other alike: complaints that the order of a report
does not tell apart are of one origin. -/
theorem mergeSort_order_congr {xs ys : List Complaint}
    (h : ∀ k, xs.filter (Complaint.origin · = k) = ys.filter (Complaint.origin · = k)) :
    xs.mergeSort (fun a b => (a.order b).isLE) = ys.mergeSort fun a b => (a.order b).isLE := by
  refine Complaint.totalLE_order.mergeSort_congr fun a => ?_
  have hkey : ∀ l : List Complaint, l.filter (TotalLE.tied (fun a b => (a.order b).isLE) a) =
      (l.filter (·.origin = a.origin)).filter (TotalLE.tied (fun a b => (a.order b).isLE) a) := by
    intro l
    rw [List.filter_filter]
    refine List.filter_congr fun b _ => ?_
    cases htied : TotalLE.tied (fun a b : Complaint => (a.order b).isLE) a b with
    | false => rfl
    | true =>
      obtain ⟨hpath, hrule⟩ := Complaint.tied_order htied
      simp [Complaint.origin, hpath, hrule]
  rw [hkey xs, hkey ys, h]

/-! ## Pairs of files and rules -/

/-- A file of a plan with each of its rules. -/
def Task.pairs (t : Task) : List (String × Rule) := t.rules.map (t.path, ·)

theorem flatMap_found_pairs {ts : List Task} (h : ∀ t ∈ ts, t.Unfailing source) :
    (ts.map (·.run source .never 0)).flatMap FileRun.found =
      (ts.flatMap Task.pairs).flatMap fun q => source.found q.1 q.2 := by
  rw [Task.flatMap_found_run_never h, List.flatMap_assoc]
  refine List.flatMap_congr fun t _ => ?_
  rw [Task.pairs, List.flatMap_map]

namespace Scanner

variable {s s' : Scanner}

/-- The files of a scan with the rules that accept them. -/
def pairs (s : Scanner) (source : FileSource) : List (String × Rule) :=
  (s.candidates source).flatMap fun p => (s.rules.rules.filter (·.accepts p)).map (p, ·)

/-- The origin of what a pair brings. -/
def pairKey (q : String × Rule) : String × String := (Path.slashed q.1, q.2.name)

theorem pairs_nodup (hn : s.rules.NamesDiffer) (hd : Plan.Distinct source.candidates) :
    ((s.pairs source).map pairKey).Nodup := by
  have hkeys : (s.pairs source).map pairKey = (s.candidates source).flatMap fun p =>
      ((s.rules.rules.filter (·.accepts p)).map Rule.name).map (Path.slashed p, ·) := by
    simp [pairs, List.map_flatMap, pairKey, Function.comp_def]
  rw [hkeys, List.nodup_flatMap]
  -- the rules of one file differ by name, those of two files by the text of the path
  refine ⟨fun p _ => ?_, (distinct_candidates hd).imp fun hab => ?_⟩
  · exact (hn.sublist (List.filter_sublist.map _)).map fun a b hab => (Prod.mk.inj hab).2
  · intro k hka hkb
    obtain ⟨_, -, rfl⟩ := List.mem_map.1 hka
    obtain ⟨_, -, heq⟩ := List.mem_map.1 hkb
    exact hab.2 (Prod.mk.inj heq).1.symm

theorem rule_mem_of_mem_pairs {q : String × Rule} (hq : q ∈ s.pairs source) : q.2 ∈ s.rules.rules := by
  obtain ⟨p, -, hq⟩ := List.mem_flatMap.1 hq
  obtain ⟨r, hr, rfl⟩ := List.mem_map.1 hq
  exact List.mem_of_mem_filter hr

theorem plan_pairs_perm (hd : Plan.Distinct source.candidates) :
    ((s.plan source).flatMap Task.pairs).Perm (s.pairs source) := by
  have hperm : ((s.plan source).flatMap fun t => t.rules.flatMap fun r => [(t.path, r)]).Perm _ :=
    Plan.flatMap_make_perm (distinct_candidates hd) fun p r => [(p, r)]
  simp only [← List.map_eq_flatMap] at hperm
  exact hperm

/-- The complaints of the pairs are sorted alike, whatever the order of the pairs. -/
theorem mergeSort_pairs (hn : s.rules.NamesDiffer) (hown : ∀ r ∈ s.rules.rules, r.SpeaksForItself)
    (hd : Plan.Distinct source.candidates) {qs : List (String × Rule)} (hqs : qs.Perm (s.pairs source)) :
    (qs.flatMap fun q => source.found q.1 q.2).mergeSort (fun a b => (a.order b).isLE) =
      ((s.pairs source).flatMap fun q => source.found q.1 q.2).mergeSort fun a b => (a.order b).isLE := by
  refine mergeSort_order_congr fun k => ?_
  refine (filter_flatMap_of_perm pairKey hqs.symm (pairs_nodup hn hd) (fun q hq c hc => ?_) k).symm
  obtain ⟨hrule, hpath⟩ := (hown q.2 (rule_mem_of_mem_pairs hq)).found hc
  rw [Complaint.origin, hrule, hpath, pairKey]

/-! ## Scans in any order -/

/-- The same rules, globs and files, where rules and candidates may come in another order. -/
structure Reordered (s : Scanner) (source : FileSource) (s' : Scanner) (source' : FileSource) : Prop where
  rules : s'.rules.rules.Perm s.rules.rules
  excluded : s'.excluded = s.excluded
  candidates : source'.candidates.Perm source.candidates
  read : source'.read = source.read

namespace Reordered

theorem refl (s : Scanner) (source : FileSource) : Reordered s source s source := ⟨.refl _, rfl, .refl _, rfl⟩

variable (h : Reordered s source s' source')

include h

theorem pairs_perm : (s'.pairs source').Perm (s.pairs source) := by
  unfold pairs Scanner.candidates
  rw [h.excluded]
  exact (h.candidates.filter _).flatMap fun p _ => (h.rules.filter _).map _

theorem builds_iff : s'.Builds source' ↔ s.Builds source := by
  unfold Builds
  rw [h.excluded, h.read]
  simp only [h.candidates.mem_iff, h.rules.mem_iff]

theorem found_eq : source'.found = source.found := by
  funext p r
  rw [FileSource.found, FileSource.found, h.read]

end Reordered

theorem builds_of_unfailing (hd : Plan.Distinct source.candidates) (h : ∀ t ∈ s.plan source, t.Unfailing source) :
    s.Builds source := by
  intro p hp hexcluded r hr haccepts text hread
  have htask : Plan.taskOf s.rules.rules p ∈ s.plan source := by
    refine (Plan.mem_make_iff (distinct_candidates hd)).2 ⟨p, List.mem_filter.2 ⟨?_, ?_⟩, rfl⟩
    · exact List.mem_filter.2 ⟨hp, by simp [hexcluded]⟩
    · exact List.any_eq_true.2 ⟨r, hr, haccepts⟩
  exact Rule.failed_run_iff.1 (h _ htask text hread r (List.mem_filter.2 ⟨hr, haccepts⟩))

/-- A result says no more than its complaints and how many files were scanned. -/
theorem gather_congr {runs runs' : List FileRun} (b : Bool)
    (hc : (gather runs b).complaints = (gather runs' b).complaints)
    (hf : (gather runs b).filesScanned = (gather runs' b).filesScanned) : gather runs b = gather runs' b := by
  simp only [gather, ScanResult.aggregate] at hc hf ⊢
  rw [hc, hf]

/-- However the outcomes of the files are put together, they come to the same result. -/
theorem gather_reordered (hn : s.rules.NamesDiffer) (hown : ∀ r ∈ s.rules.rules, r.SpeaksForItself)
    (hd : Plan.Distinct source.candidates) (hb : s.Builds source) (h : Reordered s source s' source')
    {runs : List FileRun} (hruns : runs.Perm (s'.fullRuns source')) :
    gather runs false = gather (s.fullRuns source) false := by
  have hd' : Plan.Distinct source'.candidates := hd.perm h.candidates
  have hun := unfailing_of_builds hd hb
  have hun' := unfailing_of_builds hd' (h.builds_iff.2 hb)
  refine gather_congr false ?_ ?_
  · -- the tasks in the order in which their outcomes come
    obtain ⟨ts, rfl, hts⟩ : ∃ ts : List Task, runs = ts.map (·.run source' .never 0) ∧ ts.Perm (s'.plan source') :=
      (congrFun₂ (List.eq_map_comp_perm _) runs (s'.plan source')).mpr hruns
    have hpairs : (ts.flatMap Task.pairs).Perm (s.pairs source) :=
      ((hts.flatMap fun _ _ => .refl _).trans (plan_pairs_perm hd')).trans h.pairs_perm
    rw [gather_complaints, gather_complaints, flatMap_found_pairs fun t ht => hun' t (hts.mem_iff.1 ht), h.found_eq,
      mergeSort_pairs hn hown hd hpairs, ← mergeSort_pairs hn hown hd (plan_pairs_perm hd), ← flatMap_found_pairs hun]
    rfl
  · have hany : ∀ p, s'.rules.rules.any (·.accepts p) = s.rules.rules.any (·.accepts p) := fun p => h.rules.any_eq
    rw [gather_filesScanned, hruns.countP_eq, ← gather_filesScanned _ false, filesScanned_gather_fullRuns hd' hun',
      filesScanned_gather_fullRuns hd hun, h.excluded, h.read]
    simp only [hany]
    exact (h.candidates.filter _).length_eq

/-- Rules that speak for themselves come to the same end on distinct candidates, in whatever order rules and candidates
are listed, workers make their steps, and the outcomes of the files are put together: either a hook fails in every
case, or the result is the same in every case. -/
theorem work_order_independent (s : Scanner) (source : FileSource) (hn : s.rules.NamesDiffer)
    (hown : ∀ r ∈ s.rules.rules, r.SpeaksForItself) (hd : Plan.Distinct source.candidates) :
    (∀ s' source', Reordered s source s' source' → (∃ e, (s'.scan source' .never).2 = .error e) ∧
      ∀ parallelism schedule, .cancel ∉ schedule → ∃ e, (s'.work parallelism schedule source').result = .error e) ∨
    ∃ r, ∀ s' source', Reordered s source s' source' → (s'.scan source' .never).2 = .ok r ∧
      ∀ parallelism schedule, .cancel ∉ schedule → (s'.work parallelism schedule source').result = .ok r ∧
        ∀ runs, runs.Perm (s'.work parallelism schedule source').runs → gather runs false = r := by
  by_cases hb : s.Builds source
  · refine .inr ⟨gather (s.fullRuns source) false, fun s' source' h => ?_⟩
    have hun := unfailing_of_builds (hd.perm h.candidates) (h.builds_iff.2 hb)
    have hsame : gather (s'.fullRuns source') false = gather (s.fullRuns source) false :=
      gather_reordered hn hown hd hb h (.refl _)
    refine ⟨by rw [scan_never_of_unfailing hun, hsame], fun parallelism schedule hc => ?_⟩
    rw [work_result_of_unfailing parallelism hun hc, (work_runs_of_unfailing parallelism hun hc).2, hsame]
    exact ⟨rfl, fun _ => gather_reordered hn hown hd hb h⟩
  · refine .inl fun s' source' h => ?_
    -- a hook that fails in one order fails in every order
    have hfail : ¬∀ t ∈ s'.plan source', t.Unfailing source' := fun hun =>
      hb (h.builds_iff.1 (builds_of_unfailing (hd.perm h.candidates) hun))
    refine ⟨scan_never_error hfail, fun parallelism schedule hc => work_error parallelism ?_ hc⟩
    push Not at hfail
    exact hfail

/-- Says of every match twice that it is there. -/
def echo : Hook := fun m => .ok [m.complaint, { m.complaint with message := "and again" }]

/-- A rule that passes over comments, and one whose complaints the order of a report does not tell apart. -/
def echoed : List RuleDefinition :=
  [{ Plan.todo with hook := some (skipCommented "#") }, { fixme with hook := some echo }]

theorem speaksForItself_of_load_echoed {rules : RuleSet} (h : (RuleSet.load [inlineSource echoed] {}).2 = .ok rules) :
    ∀ r ∈ rules.rules, r.SpeaksForItself := by
  intro r hr hook hhook m hm found hfound c hc
  obtain ⟨source, hsource, ds, hds, d, hd, hsame⟩ := RuleSet.hook_of_load h hr
  obtain rfl := List.mem_singleton.1 hsource
  obtain rfl := Except.ok.inj hds
  have hname : m.rule.name = r.name := congrArg RuleInfo.name hm
  rcases List.mem_pair.1 hd with rfl | rfl <;> obtain rfl := Option.some.inj (hsame.symm.trans hhook)
  · unfold skipCommented at hfound
    split at hfound <;> obtain rfl := Except.ok.inj hfound
    · simp at hc
    · obtain rfl := List.mem_singleton.1 hc
      exact ⟨hname, rfl⟩
  · obtain rfl := Except.ok.inj hfound
    rcases List.mem_pair.1 hc with rfl | rfl <;> exact ⟨hname, rfl⟩

/-- Three files can be read, and each of them brings three complaints in one order. -/
theorem echoed_order_independent : ∃ rules, (RuleSet.load [inlineSource echoed] {}).2 = .ok rules ∧
    rules.NamesDiffer ∧ (∀ r ∈ rules.rules, r.SpeaksForItself) ∧ Plan.Distinct notes.candidates ∧
    ∃ r, r.complaints.map (fun c => (c.path, c.message)) = ["a.lock", "a.py", "b.py"].flatMap (fun p =>
        [(p, "TODO left in code"), (p, "FIXME left in code"), (p, "and again")]) ∧
      ∀ s' source', Reordered ⟨rules, []⟩ notes s' source' → (s'.scan source' .never).2 = .ok r ∧
        ∀ parallelism schedule, .cancel ∉ schedule → (s'.work parallelism schedule source').result = .ok r ∧
          ∀ runs, runs.Perm (s'.work parallelism schedule source').runs → gather runs false = r := by
  have h : ((RuleSet.load [inlineSource echoed] {}).2.toOption.map fun rules =>
      (scan ⟨rules, []⟩ notes .never).2.toOption.map fun r => r.complaints.map fun c => (c.path, c.message)) =
      some (some (["a.lock", "a.py", "b.py"].flatMap fun p =>
        [(p, "TODO left in code"), (p, "FIXME left in code"), (p, "and again")])) := by
    simp only [scan, plan, Plan.make_eq_insertSort, gather_eq_insertSort]
    decide +kernel
  obtain ⟨rules, hload, hresult⟩ := toOption_map_ok h
  obtain ⟨r, hr, hcomplaints⟩ := toOption_map_ok hresult
  have hn := RuleSet.namesDiffer_of_load hload
  have hown := speaksForItself_of_load_echoed hload
  refine ⟨rules, hload, hn, hown, notes_distinct, ?_⟩
  rcases work_order_independent ⟨rules, []⟩ notes hn hown notes_distinct with herror | ⟨r', hok⟩
  · obtain ⟨⟨e, he⟩, -⟩ := herror _ _ (.refl _ _)
    cases he.symm.trans hr
  · obtain rfl := Except.ok.inj ((hok _ _ (.refl _ _)).1.symm.trans hr)
    exact ⟨r', hcomplaints, hok⟩

end Scanner

end PatternLint
