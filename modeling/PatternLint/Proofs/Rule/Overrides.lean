import PatternLint.Proofs.Rule.Definition
/-!
# What a set severity changes

A hook may say anything. `Complaint.Within` is what is asked of a complaint that it makes, and `Complaint.Passed` is all
that may happen to one on its way: a severity that was set for the rule takes the place of its own, if the complaint is
under the rule's name. Main statement: a match of a rule with a hook fails exactly if the hook fails or makes a
complaint that leaves the file, of which the first is named; otherwise the complaints of the hook are passed, none lost
and none added. So no complaint under the name of a rule escapes the severity that was set for it.
-/
namespace PatternLint

/-! ## One complaint -/

namespace Complaint

/-- The complaint has a span of the text. -/
def Within (c : Complaint) (text : List Char) : Prop := c.span.start ≤ c.span.stop ∧ c.span.stop ≤ byteLength text

/-- How a complaint of a hook leaves the rule: only its severity may be another one, and it is another one only for a
complaint under the rule's name. -/
structure Passed (info : RuleInfo) (given passed : Complaint) : Prop where
  frame : passed = { given with severity := passed.severity }
  own : ∀ s, info.setSeverity = some s → given.rule = info.name → passed.severity = s
  other : info.setSeverity = none ∨ given.rule ≠ info.name → passed.severity = given.severity

variable {info : RuleInfo} {given passed passed' : Complaint} {text : List Char}

theorem fits_iff_within : given.span.fits (byteLength text) = true ↔ given.Within text := by
  simp [Span.fits, Within]

theorem Passed.rule_eq (h : Passed info given passed) : passed.rule = given.rule := by rw [h.frame]

theorem Passed.path_eq (h : Passed info given passed) : passed.path = given.path := by rw [h.frame]

theorem Passed.span_eq (h : Passed info given passed) : passed.span = given.span := by rw [h.frame]

theorem Passed.eq (h : Passed info given passed) (h' : Passed info given passed') : passed = passed' := by
  have hseverity : passed.severity = passed'.severity := by
    cases hset : info.setSeverity with
    | none => rw [h.other (.inl hset), h'.other (.inl hset)]
    | some s =>
      by_cases hname : given.rule = info.name
      · rw [h.own s hset hname, h'.own s hset hname]
      · rw [h.other (.inr hname), h'.other (.inr hname)]
  rw [h.frame, h'.frame, hseverity]

end Complaint

open Complaint

variable {m : Match} {c c' : Complaint} {reason : String}

theorem passOn_error_iff : passOn m c = .error reason ↔
    ¬c.Within m.text ∧ reason = strayText c.span (byteLength m.text) := by
  rw [← fits_iff_within, passOn]
  cases c.span.fits (byteLength m.text) <;> simp [eq_comm]

theorem passOn_passed (h : passOn m c = .ok c') : Passed m.rule c c' := by
  unfold passOn at h
  simp only at h
  split at h
  · cases h
  · obtain rfl := Except.ok.inj h
    cases hset : m.rule.setSeverity with
    | none => exact ⟨rfl, by simp [hset], fun _ => rfl⟩
    | some s =>
      by_cases hname : c.rule = m.rule.name
      · exact ⟨by simp [hname], by simp [hset, hname], by simp [hset, hname]⟩
      · exact ⟨by simp [hname], by simp [hname], by simp [hname]⟩

theorem passOn_eq_ok_iff : passOn m c = .ok c' ↔ c.Within m.text ∧ Passed m.rule c c' := by
  constructor
  · intro h
    refine ⟨?_, passOn_passed h⟩
    by_contra hout
    cases h.symm.trans (passOn_error_iff.2 ⟨hout, rfl⟩)
  · rintro ⟨hin, hpassed⟩
    cases h : passOn m c with
    | error reason => exact absurd hin (passOn_error_iff.1 h).1
    | ok c'' => rw [(passOn_passed h).eq hpassed]

theorem fault?_passOn_eq_none_iff : fault? (passOn m c) = none ↔ c.Within m.text := by
  rw [Option.eq_none_iff_forall_ne_some]
  simp only [ne_eq, fault?_eq_some, passOn_error_iff, not_and]
  exact ⟨fun h => by_contra fun hout => h _ hout rfl, fun hin _ hout => absurd hin hout⟩

/-! ## All complaints of a match -/

theorem mapM_ok_iff {ε α β : Type} {f : α → Except ε β} {as : List α} {bs : List β} :
    as.mapM f = .ok bs ↔ List.Forall₂ (fun a b => f a = .ok b) as bs := by
  refine ⟨mapM_ok as, fun h => ?_⟩
  induction h with
  | nil => rfl
  | cons hab _ ih =>
    rw [List.mapM_cons, hab, ih]
    rfl

variable {given passed : List Complaint}

theorem mapM_passOn_ok_iff : given.mapM (passOn m) = .ok passed ↔
    (∀ c ∈ given, c.Within m.text) ∧ List.Forall₂ (Passed m.rule) given passed := by
  simp only [mapM_ok_iff, passOn_eq_ok_iff]
  exact List.forall₂_and_left _ _

theorem mapM_passOn_error_iff : given.mapM (passOn m) = .error reason ↔
    ∃ before c after, given = before ++ c :: after ∧ (∀ b ∈ before, b.Within m.text) ∧ ¬c.Within m.text ∧
      reason = strayText c.span (byteLength m.text) := by
  rw [← fault?_eq_some, fault?_mapM, List.findSome?_eq_some_iff]
  simp only [fault?_passOn_eq_none_iff, fault?_eq_some, passOn_error_iff]
  constructor
  · rintro ⟨before, c, after, hgiven, ⟨hout, hreason⟩, hbefore⟩
    exact ⟨before, c, after, hgiven, hbefore, hout, hreason⟩
  · rintro ⟨before, c, after, hgiven, hbefore, hout, hreason⟩
    exact ⟨before, c, after, hgiven, ⟨hout, hreason⟩, hbefore⟩

theorem exists_mapM_passOn_error_iff :
    (∃ reason, given.mapM (passOn m) = .error reason) ↔ ∃ c ∈ given, ¬c.Within m.text := by
  simp only [← fault?_eq_some, ← Option.ne_none_iff_exists', fault?_mapM, ne_eq, List.findSome?_eq_none_iff,
    fault?_passOn_eq_none_iff, not_forall, exists_prop]

namespace Match

variable {hook : Hook}

theorem build_ok_iff : m.build (some hook) = .ok passed ↔
    ∃ given, hook m = .ok given ∧ (∀ c ∈ given, c.Within m.text) ∧ List.Forall₂ (Passed m.rule) given passed := by
  have hbuild : m.build (some hook) = (hook m).bind (·.mapM (passOn m)) := rfl
  rw [hbuild]
  cases hook m with
  | error reason => simp [Except.bind]
  | ok given =>
    simp only [Except.bind, Except.ok.injEq, exists_eq_left']
    exact mapM_passOn_ok_iff

theorem build_error_iff : m.build (some hook) = .error reason ↔ hook m = .error reason ∨
    ∃ before c after, hook m = .ok (before ++ c :: after) ∧ (∀ b ∈ before, b.Within m.text) ∧ ¬c.Within m.text ∧
      reason = strayText c.span (byteLength m.text) := by
  have hbuild : m.build (some hook) = (hook m).bind (·.mapM (passOn m)) := rfl
  rw [hbuild]
  cases hook m with
  | error reason => simp [Except.bind]
  | ok given =>
    simp only [Except.bind, reduceCtorEq, Except.ok.injEq, false_or]
    exact mapM_passOn_error_iff

/-- A severity that was set for the rule is that of every complaint under the rule's name. -/
theorem severity_of_mem_build {hook : Option Hook} {s : Severity} (hset : m.rule.setSeverity = some s)
    (h : m.build hook = .ok passed) (hc : c ∈ passed) (hname : c.rule = m.rule.name) : c.severity = s := by
  cases hook with
  | none =>
    obtain rfl := Except.ok.inj h
    obtain rfl := List.mem_singleton.1 hc
    simp [complaint, RuleInfo.severity, hset]
  | some hook =>
    obtain ⟨given, -, -, hpassed⟩ := build_ok_iff.1 h
    obtain ⟨c₀, -, hc₀⟩ := exists_of_forall₂ hpassed.flip hc
    exact hc₀.own s hset (hc₀.rule_eq.symm.trans hname)

end Match

namespace Rule

theorem build_of_hook_none {r : Rule} (h : r.hook = none) (path : String) (text : List Char) (span : Span) :
    r.build path text span = .ok [(Match.mk r.info path text span).complaint] := by
  rw [build, h]
  rfl

/-- A match of a rule without a hook makes one complaint, with the severity of the rule. A hook's complaints are passed
in their order, each of them unchanged but for a severity set for the rule, unless the hook fails or one of them leaves
the file. So a severity set for the rule is that of all complaints under its name. -/
theorem build_applies_overrides (r : Rule) (path : String) (text : List Char) (span : Span) :
    let m : Match := ⟨r.info, path, text, span⟩
    (r.hook = none → ∃ c, r.build path text span = .ok [c] ∧ c.rule = r.info.name ∧ c.path = path ∧ c.span = span ∧
      c.severity = r.info.setSeverity.getD r.info.ownSeverity) ∧
    (∀ hook, r.hook = some hook →
      (∀ reason, r.build path text span = .error reason ↔ hook m = .error reason ∨
        ∃ before c after, hook m = .ok (before ++ c :: after) ∧ (∀ b ∈ before, b.Within text) ∧ ¬c.Within text ∧
          reason = strayText c.span (byteLength text)) ∧
      ∀ passed, r.build path text span = .ok passed ↔
        ∃ given, hook m = .ok given ∧ (∀ c ∈ given, c.Within text) ∧ List.Forall₂ (Passed r.info) given passed) ∧
    ∀ s passed, r.info.setSeverity = some s → r.build path text span = .ok passed →
      ∀ c ∈ passed, c.rule = r.info.name → c.severity = s := by
  intro m
  refine ⟨?_, ?_, ?_⟩
  · intro hnone
    exact ⟨m.complaint, build_of_hook_none hnone path text span, rfl, rfl, rfl, rfl⟩
  · intro hook hhook
    have hbuild : r.build path text span = m.build (some hook) := by rw [build, hhook]
    rw [hbuild]
    exact ⟨fun reason => Match.build_error_iff, fun passed => Match.build_ok_iff⟩
  · intro s passed hset hpassed c hc hname
    exact m.severity_of_mem_build hset hpassed hc hname

/-- At the start of a file it complains under two names, further on with spans that leave the file. -/
def unruly : Hook := fun m =>
  if m.span.start = 0 then .ok [m.complaint, { m.complaint with severity := .critical },
    { m.complaint with rule := "other", severity := .critical }]
  else .ok [m.complaint, { m.complaint with span := ⟨2, 1⟩ }, { m.complaint with span := ⟨0, 99⟩ }]

/-- Looks for notes, with the unruly hook. -/
def unrulyNote : RuleDefinition where
  name := "todo"
  description := "TODO left in code"
  capture := some (.pattern "TODO" {})
  severity := some .critical
  included := ["*"]
  hook := some unruly

/-- A severity set for a rule reaches its own complaints and no other; of two spans that leave the file the first is
named. -/
theorem unruly_applies_overrides : ∃ r : Rule, r.hook = some unruly ∧ r.info.name = "todo" ∧
    r.info.ownSeverity = .critical ∧ r.info.setSeverity = some .warning ∧
    (∃ passed, r.build "a.py" "TODO".toList ⟨0, 4⟩ = .ok passed ∧
      passed.map (fun c => (c.rule, c.severity)) = [("todo", .warning), ("todo", .warning), ("other", .critical)] ∧
      ∀ c ∈ passed, c.rule = r.info.name → c.severity = .warning) ∧
    r.build "a.py" "x TODO".toList ⟨2, 6⟩ = .error "hook emitted span 2..1 outside a file of 6 bytes" := by
  have h : (unrulyNote.check.toOption.map fun r =>
      let r : Rule := { r with info := { r.info with setSeverity := some .warning } }
      ((r.build "a.py" "TODO".toList ⟨0, 4⟩).toOption.map (·.map fun c => (c.rule, c.severity)),
        fault? (r.build "a.py" "x TODO".toList ⟨2, 6⟩))) =
      some (some [("todo", .warning), ("todo", .warning), ("other", .critical)],
        some "hook emitted span 2..1 outside a file of 6 bytes") := by decide +kernel
  obtain ⟨checked, hcheck, hresults⟩ := toOption_map_ok h
  have hmakes := RuleDefinition.check_makes hcheck
  let r : Rule := { checked with info := { checked.info with setSeverity := some .warning } }
  obtain ⟨hresult, hfault⟩ := Prod.mk.inj hresults
  obtain ⟨passed, hpassed, hseverities⟩ := toOption_map_ok hresult
  obtain ⟨-, -, hown⟩ := build_applies_overrides r "a.py" "TODO".toList ⟨0, 4⟩
  exact ⟨r, hmakes.hook, hmakes.name, (Option.some.inj hmakes.ownSeverity).symm, rfl,
    ⟨passed, hpassed, hseverities, hown .warning passed rfl hpassed⟩, fault?_eq_some.1 hfault⟩

end Rule

end PatternLint
