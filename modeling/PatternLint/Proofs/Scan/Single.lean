import PatternLint.Proofs.Capture.Agreement
import PatternLint.Proofs.Grammar.Coverage
import PatternLint.Proofs.Regex.Occurrences
import PatternLint.Proofs.Scan.Positions
/-!
# One rule on one file

Many rules make one complaint of each match that they keep, and none of the others (`Rule.Keeps`). Main statement: a
scan of one file with such a rule reports one complaint for each match that is kept, in the order of the matches
(`Scanner.scan_single`). The matches of a rule with a pattern are those of the expression that the pattern stands for.
-/
namespace PatternLint

variable {r : Rule} {path : String} {text : List Char} {keep : Span → Bool}

namespace Rule

/-- The complaints of the matches that are kept. -/
def kept (r : Rule) (path : String) (text : List Char) (keep : Span → Bool) : List Complaint :=
  ((r.finder.findAll text).spans.filter keep).map fun span => (Match.mk r.info path text span).complaint

/-- The rule makes one complaint of each match that is kept, and none of the others. -/
def Keeps (r : Rule) (path : String) (text : List Char) (keep : Span → Bool) : Prop :=
  ∀ span ∈ (r.finder.findAll text).spans, r.build path text span =
    .ok (if keep span then [(Match.mk r.info path text span).complaint] else [])

theorem keeps_all (h : r.hook = none) : r.Keeps path text fun _ => true := by
  intro span _
  rw [build, h]
  rfl

theorem Keeps.builds (h : r.Keeps path text keep) : r.Builds path text := fun span hspan => ⟨_, h span hspan⟩

theorem Keeps.run_eq (h : r.Keeps path text keep) : (r.run path text).complaints = .ok (r.kept path text keep) := by
  rw [run_of_builds h.builds, kept]
  congr 1
  unfold Keeps at h
  generalize (r.finder.findAll text).spans = spans at h
  induction spans with
  | nil => rfl
  | cons span spans ih =>
    rw [List.flatMap_cons, ih fun s hs => h s (List.mem_cons_of_mem _ hs), h span List.mem_cons_self, List.filter_cons]
    cases keep span <;> rfl

/-- Complaints of matches that follow one another are in the order of a report. -/
theorem pairwise_kept (r : Rule) (path : String) (text : List Char) (keep : Span → Bool) :
    (r.kept path text keep).Pairwise fun c d => c.span.start < d.span.start ∧ (c.order d).isLE := by
  have htrans : Trans Span.Precedes Span.Precedes Span.Precedes := ⟨Span.Precedes.trans⟩
  have hpairwise := (r.finder.spans_precede text).pairwise.filter keep
  refine List.pairwise_map.2 (hpairwise.imp_of_mem fun {s s'} hs hs' hlt => ⟨hlt.1, ?_⟩)
  apply (Complaint.isLE_order_iff (by rfl)).2
  refine .inl (position_lt ?_ ?_ hlt.1)
  · exact (r.finder.span_in (List.mem_of_mem_filter hs)).2.2.1
  · exact (r.finder.span_in (List.mem_of_mem_filter hs')).2.2.1

/-! ## Rules with a pattern -/

/-- Complaints have the severity that the rule is defined with, unless another is set. -/
theorem severity_of_makes {d : RuleDefinition} {severity : Severity} (h : d.Makes none r)
    (hseverity : d.severity = some severity) (span : Span) :
    (Match.mk r.info path text span).complaint.severity = severity := by
  show r.info.setSeverity.getD r.info.ownSeverity = severity
  rw [h.setSeverity]
  exact Option.some.inj (h.ownSeverity.symm.trans hseverity)

theorem finder_of_makes {d : RuleDefinition} {set : Option Severity} {source : String} {options : PatternOptions}
    {e : Regex} (h : d.Makes set r) (hcapture : d.capture = some (.pattern source options))
    (he : (Regex.parse options.flags source.toList).toOption = some e) : r.finder = .pattern e.program := by
  obtain ⟨capture, hsome, hcompile⟩ := h.finder
  obtain rfl := Option.some.inj (hcapture.symm.trans hsome)
  obtain ⟨p, hp, hfinder⟩ := Capture.compile_pattern_ok hcompile
  obtain ⟨e', he', rfl⟩ := Regex.compile_ok hp
  rw [he'] at he
  obtain rfl := Option.some.inj he
  exact hfinder

theorem mem_spans_iff {e : Regex} (he : e.Apart) (h : r.finder = .pattern e.program) {span : Span} :
    span ∈ (r.finder.findAll text).spans ↔
      ∃ c d, (Cursor.start text).Leads c ∧ e.MatchesFrom c d ∧ span = ⟨c.offset, d.offset⟩ := by
  rw [h]
  simp only [Finder.findAll, List.mem_map, he.mem_findAll_iff]
  constructor
  · rintro ⟨m, ⟨c, hc, hstart, hmatch⟩, rfl⟩
    exact ⟨c, m.stop, hc, hmatch, by rw [hstart]⟩
  · rintro ⟨c, d, hc, hmatch, rfl⟩
    exact ⟨⟨c.offset, d⟩, ⟨c, hc, rfl, hmatch⟩, rfl⟩

end Rule

namespace Scanner

/-- The plan of a scan of one file with one rule that accepts it. -/
theorem plan_single (haccepts : r.accepts path = true) (read : String → Except ReadError (List Char)) :
    plan ⟨⟨[r]⟩, []⟩ ⟨[path], read⟩ = [⟨path, [r]⟩] := by
  have hcandidates : candidates ⟨⟨[r]⟩, []⟩ ⟨[path], read⟩ = [path] := rfl
  rw [plan, hcandidates, Plan.make_eq_of_distinct (List.pairwise_singleton _ _)]
  simp [Plan.taskOf, haccepts]

/-- A scan of one file with one rule reports the complaints of the matches that are kept, as they follow one another. -/
theorem scan_single (haccepts : r.accepts path = true) (h : r.Keeps path text keep) : ∃ result,
    (scan ⟨⟨[r]⟩, []⟩ ⟨[path], fun _ => .ok text⟩ .never).2 = .ok result ∧
      result.complaints = r.kept path text keep := by
  have hplan := plan_single haccepts fun _ => .ok text
  have hunfailing : ∀ t ∈ plan ⟨⟨[r]⟩, []⟩ ⟨[path], fun _ => .ok text⟩, t.Unfailing ⟨[path], fun _ => .ok text⟩ := by
    rw [hplan]
    intro t ht text' htext r' hr'
    obtain rfl := List.mem_singleton.1 ht
    obtain rfl := List.mem_singleton.1 hr'
    obtain rfl := Except.ok.inj htext
    exact Rule.failed_run_iff.2 h.builds
  refine ⟨_, scan_never_of_unfailing hunfailing, ?_⟩
  rw [gather_complaints, fullRuns, Task.flatMap_found_run_never hunfailing, hplan]
  have hfound : FileSource.found ⟨[path], fun _ => .ok text⟩ path r = r.kept path text keep := by
    simp [FileSource.found, h.run_eq, Except.toOption]
  simp only [List.flatMap_cons, List.flatMap_nil, List.append_nil, hfound]
  exact List.mergeSort_of_pairwise ((r.pairwise_kept path text keep).imp fun h => h.2)

end Scanner

end PatternLint
