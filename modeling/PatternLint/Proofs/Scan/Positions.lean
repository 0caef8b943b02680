import Mathlib.Data.Prod.Lex
import PatternLint.Proofs.Location.Resolve
import PatternLint.Proofs.Scan.Origin
/-!
# Positions in a report

A report never compares bytes: it is sorted by line and column. Both count what stands before a place, the one newlines,
the other what came after the last of them, so that a place further on has a greater position (`position_lt`). Main
statement: positions follow the bytes of a text and tell them apart, and so the complaints about one file that rules
without hooks make are reported in the order of where they start, and by the names of their rules where they start
together.
-/
namespace PatternLint

variable {text : List Char} {span : Span}

/-- The line and the column, by which a report is sorted. -/
def Location.position (l : Location) : Nat ×ₗ Nat := toLex (l.firstLine, l.column)

/-! ## Positions of a text -/

theorem Span.Cuts.position_eq {before covered after : List Char} (h : span.Cuts text before covered after) :
    (resolve text span).position = toLex (before.count '\n' + 1, (lastPiece before).length + 1) := by
  rw [Location.position, h.firstLine_eq, h.column_eq]

/-- More text before a place is one more newline at least, or more of the same line. -/
theorem lex_lt_of_append (before : List Char) {mid : List Char} (h : mid ≠ []) :
    toLex (before.count '\n' + 1, (lastPiece before).length + 1) <
      toLex ((before ++ mid).count '\n' + 1, (lastPiece (before ++ mid)).length + 1) := by
  rw [Prod.Lex.toLex_lt_toLex, List.count_append]
  by_cases hmem : '\n' ∈ mid
  · have := List.count_pos_iff.2 hmem
    exact .inl (by omega)
  · have := List.length_pos_iff.2 h
    rw [List.count_eq_zero_of_not_mem hmem, lastPiece_append_of_not_mem hmem, List.length_append]
    exact .inr ⟨rfl, by omega⟩

/-- Where a span ends does not change its position. -/
theorem position_congr {s s' : Span} (h : s.start = s'.start) :
    (resolve text s).position = (resolve text s').position := by
  obtain ⟨before, covered, after, hcuts⟩ := s.exists_cuts text
  obtain ⟨before', covered', after', hcuts'⟩ := s'.exists_cuts text
  obtain rfl : before = before' := by
    refine eq_of_prefix_of_byteLength ⟨_, hcuts.text_eq_append⟩ ⟨_, hcuts'.text_eq_append⟩ (hcuts.start.unique ?_)
    rw [h]
    exact hcuts'.start
  rw [hcuts.position_eq, hcuts'.position_eq]

theorem position_lt {s s' : Span} (hs : Boundary text s.start) (hs' : Boundary text s'.start) (h : s.start < s'.start) :
    (resolve text s).position < (resolve text s').position := by
  obtain ⟨before, covered, after, hcuts⟩ := s.exists_cuts text
  obtain ⟨before', covered', after', hcuts'⟩ := s'.exists_cuts text
  rw [← hcuts.byteLength_before hs, ← hcuts'.byteLength_before hs'] at h
  rw [hcuts.position_eq, hcuts'.position_eq]
  rcases List.prefix_or_prefix_of_prefix ⟨_, hcuts.text_eq_append⟩ ⟨_, hcuts'.text_eq_append⟩ with ⟨mid, rfl⟩ | hprefix
  · refine lex_lt_of_append before ?_
    rintro rfl
    simp at h
  · exact absurd (byteLength_le_of_isPrefix hprefix) (Nat.not_le.2 h)

theorem start_eq_of_position {s s' : Span} (hs : Boundary text s.start) (hs' : Boundary text s'.start)
    (h : (resolve text s).position = (resolve text s').position) : s.start = s'.start := by
  rcases Nat.lt_trichotomy s.start s'.start with hlt | heq | hgt
  · exact absurd h (position_lt hs hs' hlt).ne
  · exact heq
  · exact absurd h (position_lt hs' hs hgt).ne'

/-! ## Complaints about one file -/

/-- Complaints about one path are sorted by position, and by rule where that is the same. -/
theorem Complaint.isLE_order_iff {c d : Complaint} (hpath : Path.slashed c.path = Path.slashed d.path) :
    (c.order d).isLE ↔ c.location.position < d.location.position ∨
      c.location.position = d.location.position ∧ c.rule ≤ d.rule := by
  have hrule : (compare c.rule d.rule).isLE ↔ c.rule ≤ d.rule :=
    isLE_compareOfLessAndEq String.le_antisymm String.not_le String.le_total
  simp only [order, hpath, Std.ReflCmp.compare_self, Ordering.isLE_then_iff_or, Nat.compare_eq_lt, Nat.compare_eq_eq,
    hrule, Location.position, Prod.Lex.toLex_lt_toLex, toLex_inj, Prod.mk.injEq]
  tauto

/-- The order of complaints about one file: by where they start, and then by rule. -/
def Complaint.InOrder (c d : Complaint) : Prop :=
  c.span.start < d.span.start ∨ c.span.start = d.span.start ∧ c.rule ≤ d.rule

theorem Complaint.inOrder_of_isLE {c d : Complaint} (hc : c.location = resolve text c.span)
    (hd : d.location = resolve text d.span) (hbc : Boundary text c.span.start) (hbd : Boundary text d.span.start)
    (hpath : Path.slashed c.path = Path.slashed d.path) (h : (c.order d).isLE) : c.InOrder d := by
  rw [isLE_order_iff hpath, hc, hd] at h
  rcases Nat.lt_trichotomy c.span.start d.span.start with hlt | heq | hgt
  · exact .inl hlt
  · rcases h with hlt | ⟨-, hrule⟩
    · exact absurd (position_congr heq) hlt.ne
    · exact .inr ⟨heq, hrule⟩
  · rcases h with hlt | ⟨heq, -⟩
    · exact absurd (position_lt hbd hbc hgt) hlt.asymm
    · exact absurd heq (position_lt hbd hbc hgt).ne'

/-! ## Scans -/

namespace Plan

variable {rules : List Rule} {candidates : List String} {t u : Task}

theorem eq_of_same_path (ht : t ∈ make rules candidates) (hu : u ∈ make rules candidates)
    (h : Path.same t.path u.path) : t = u :=
  List.inj_on_of_nodup_map (components_nodup rules candidates) ht hu (Path.same_iff.1 h)

theorem rule_mem (ht : t ∈ make rules candidates) {r : Rule} (hr : r ∈ t.rules) : r ∈ rules := by
  rw [rules_eq ht] at hr
  obtain ⟨r', hr', hmem⟩ := List.mem_flatMap.1 hr
  obtain rfl := List.eq_of_mem_replicate hmem
  exact hr'

end Plan

namespace Scanner

variable {s : Scanner} {source : FileSource} {r : ScanResult}

theorem Reports.pairwise_order (h : s.Reports source r) : r.complaints.Pairwise fun c d => (c.order d).isLE := by
  obtain ⟨runs, b, rfl, -, -⟩ := h.exists_runs
  rw [gather_complaints]
  exact Complaint.totalLE_order.pairwise_mergeSort _

theorem Reports.exists_placed (h : s.Reports source r) {c : Complaint} (hc : c ∈ r.complaints) :
    ∃ f : Finding, f.Placed source (s.plan source) ∧ f.complaint = c := by
  obtain ⟨fs, hfs, hperm⟩ := h.exists_findings
  obtain ⟨f, hf, rfl⟩ := List.mem_map.1 (hperm.mem_iff.1 hc)
  exact ⟨f, Plan.placed_of_mem_findings (hfs.subset hf), rfl⟩

/-- Complaints of rules without hooks about one file come in the order of their places. -/
theorem Reports.pairwise_inOrder (h : s.Reports source r) (hooks : ∀ rule ∈ s.rules.rules, rule.hook = none) :
    r.complaints.Pairwise fun c d => Path.same c.path d.path → c.InOrder d := by
  refine h.pairwise_order.imp_of_mem fun {c d} hc hd hle hsame => ?_
  obtain ⟨f, hf, rfl⟩ := h.exists_placed hc
  obtain ⟨g, hg, rfl⟩ := h.exists_placed hd
  obtain ⟨t, ht, htf, hft⟩ := hf.planned
  obtain ⟨u, hu, hug, hgu⟩ := hg.planned
  obtain ⟨-, hbf, -, hlf, -, hpf, -⟩ := hf.plain (hooks _ (Plan.rule_mem ht hft))
  obtain ⟨-, hbg, -, hlg, -, hpg, -⟩ := hg.plain (hooks _ (Plan.rule_mem hu hgu))
  -- one file has one task, and so both complaints were made of one text
  obtain rfl : t = u := Plan.eq_of_same_path ht hu (by rw [htf, hug, ← hpf, ← hpg]; exact hsame)
  have hpath : f.path = g.path := htf.symm.trans hug
  have htext : f.text = g.text := Except.ok.inj (hf.read.symm.trans (hpath ▸ hg.read))
  rw [htext] at hbf hlf
  exact Complaint.inOrder_of_isLE hlf hlg hbf hbg (by rw [hpf, hpg, hpath]) hle

/-- Positions follow the bytes of a text, whatever the ends of the spans, and tell its places apart. In whatever way a
scan with rules that have no hooks came to its result, complaints about one file are in the order of where they start,
and in that of the names of their rules where they start together. -/
theorem positions_follow_bytes :
    (∀ (text : List Char) (a b stop stop' : Nat), Boundary text a → Boundary text b → a < b →
      (resolve text ⟨a, stop⟩).position < (resolve text ⟨b, stop'⟩).position) ∧
    (∀ (text : List Char) (s s' : Span), Boundary text s.start → Boundary text s'.start →
      (resolve text s).position = (resolve text s').position → s.start = s'.start) ∧
    ∀ (s : Scanner) (source : FileSource) (r : ScanResult), (∀ rule ∈ s.rules.rules, rule.hook = none) →
      s.Reports source r → r.complaints.Pairwise fun c d => Path.same c.path d.path →
        c.span.start < d.span.start ∨ c.span.start = d.span.start ∧ c.rule ≤ d.rule :=
  ⟨fun _ _ _ _ _ ha hb hlt => position_lt ha hb hlt, fun _ _ _ => start_eq_of_position,
    fun _ _ _ hooks h => h.pairwise_inOrder hooks⟩

/-- Two rules that are loaded out of the order of their names and match at one place, and one that matches further
on. -/
theorem notes_follow_bytes : ∃ rules r,
    (RuleSet.load [inlineSource [Plan.todo, { Plan.todo with name := "again" }, fixme]] {}).2 = .ok rules ∧
    (∀ rule ∈ rules.rules, rule.hook = none) ∧ Reports ⟨rules, []⟩ notes r ∧
    r.complaints.map (fun c => (c.path, c.rule, c.span.start)) = ["a.lock", "a.py", "b.py"].flatMap (fun p =>
      [(p, "again", 0), (p, "todo", 0), (p, "fixme", 5)]) ∧
    (r.complaints.Pairwise fun c d => Path.same c.path d.path →
      c.span.start < d.span.start ∨ c.span.start = d.span.start ∧ c.rule ≤ d.rule) ∧
    (resolve ['é', '\n', '\t'] ⟨2, 4⟩).position < (resolve ['é', '\n', '\t'] ⟨3, 0⟩).position := by
  have h : ((RuleSet.load [inlineSource [Plan.todo, { Plan.todo with name := "again" }, fixme]] {}).2.toOption.map
      fun rules => (rules.rules.all (·.hook.isNone), (scan ⟨rules, []⟩ notes .never).2.toOption.map fun r =>
        r.complaints.map fun c => (c.path, c.rule, c.span.start))) =
      some (true, some (["a.lock", "a.py", "b.py"].flatMap fun p =>
        [(p, "again", 0), (p, "todo", 0), (p, "fixme", 5)])) := by
    simp only [scan, plan, Plan.make_eq_insertSort, gather_eq_insertSort]
    decide +kernel
  obtain ⟨rules, hload, hresult⟩ := toOption_map_ok h
  obtain ⟨hall, hresult⟩ := Prod.mk.inj hresult
  obtain ⟨r, hr, hcomplaints⟩ := toOption_map_ok hresult
  have hooks : ∀ rule ∈ rules.rules, rule.hook = none := fun rule hrule => by
    simpa using List.all_eq_true.1 hall rule hrule
  refine ⟨rules, r, hload, hooks, .inr ⟨_, hr⟩, hcomplaints, ?_, ?_⟩
  · exact positions_follow_bytes.2.2 ⟨rules, []⟩ notes r hooks (.inr ⟨_, hr⟩)
  · refine positions_follow_bytes.1 _ _ _ _ _ ⟨['é'], ?_, rfl⟩ ⟨['é', '\n'], ?_, rfl⟩ (by decide) <;> decide

end Scanner

end PatternLint
