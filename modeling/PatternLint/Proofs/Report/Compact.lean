import PatternLint.Proofs.Rule.Overrides
import PatternLint.Proofs.Scan.Positions
import PatternLint.Report.Text
/-!
# One line for each complaint

The compact report writes the path, the rule and the message of a complaint as they are, and so its lines are those of
these texts. Main statement: the report of a scan has one line for each complaint and one for their numbers exactly if no
complaint brings a newline of its own, and a scan brings none if none is in the names and descriptions of its rules, in
the paths of its files and in what its hooks quote. Nothing keeps newlines out of these.
-/
namespace PatternLint

/-- The text has no newline. -/
def OneLine (s : String) : Prop := '\n' ∉ s.toList

instance (s : String) : Decidable (OneLine s) := inferInstanceAs (Decidable ('\n' ∉ s.toList))

theorem oneLine_append {s t : String} : OneLine (s ++ t) ↔ OneLine s ∧ OneLine t := by
  simp only [OneLine, String.toList_append, List.mem_append, not_or]

theorem oneLine_toString (n : Nat) : OneLine (toString n) := fun h => absurd (isDigit_of_mem_toString h) (by decide)

/-! ## Lines of a report -/

/-- No text that the line of a complaint shows as it is has a newline. -/
def Complaint.OneLine (c : Complaint) : Prop :=
  PatternLint.OneLine c.path ∧ PatternLint.OneLine c.rule ∧ PatternLint.OneLine c.message

theorem Complaint.oneLine_line {c : Complaint} : PatternLint.OneLine c.line ↔ c.OneLine := by
  have hlabel : PatternLint.OneLine c.severity.label := by cases c.severity <;> decide
  have hcolon : PatternLint.OneLine ":" := by decide
  have hblank : PatternLint.OneLine ": " := by decide
  have hopen : PatternLint.OneLine " [" := by decide
  have hclose : PatternLint.OneLine "] " := by decide
  show PatternLint.OneLine (c.path ++ ":" ++ toString c.location.firstLine ++ ":" ++ toString c.location.column ++ ": " ++
    c.severity.label ++ " [" ++ c.rule ++ "] " ++ c.message) ↔ _
  simp only [oneLine_append, oneLine_toString, hlabel, hcolon, hblank, hopen, hclose, and_true, OneLine, and_assoc]

/-- Texts with a newline behind each of them have the lines of all of them. -/
theorem linesOf_join (rows : List String) (rest : List Char) :
    linesOf ((String.join (rows.map (· ++ "\n"))).toList ++ rest) =
      rows.flatMap (fun row => linesOf row.toList) ++ linesOf rest := by
  induction rows with
  | nil => rfl
  | cons row rows ih =>
    rw [List.flatMap_cons, List.append_assoc, ← ih, ← linesOf_append_newline]
    simp

/-- Only texts of one line have as many lines as there are texts. -/
theorem length_flatMap_linesOf_eq_iff {rows : List String} :
    (rows.flatMap fun row => linesOf row.toList).length = rows.length ↔ ∀ row ∈ rows, OneLine row := by
  have hcount : (rows.flatMap fun row => linesOf row.toList).length =
      (rows.flatMap String.toList).count '\n' + rows.length := by
    induction rows with
    | nil => rfl
    | cons row rows ih =>
      simp only [List.flatMap_cons, List.length_append, List.count_append, ih, length_linesOf, List.length_cons]
      omega
  rw [hcount, Nat.add_eq_right, List.count_eq_zero]
  simp [OneLine]

namespace Report

theorem oneLine_summaryLine (r : ScanResult) : OneLine (summaryLine r) := by
  show OneLine (toString r.total ++ " Complaints found: " ++ toString r.warnings ++ " Warnings, " ++
    toString r.criticals ++ " Critical.")
  simp only [oneLine_append, oneLine_toString, true_and]
  decide

theorem linesOf_compact (r : ScanResult) : linesOf (compact r).toList =
    r.complaints.flatMap (fun c => linesOf c.line.toList) ++ [(summaryLine r).toList] := by
  have hjoin := linesOf_join (r.complaints.map Complaint.line) (summaryLine r).toList
  rw [linesOf_of_not_mem (oneLine_summaryLine r), List.flatMap_map, List.map_map] at hjoin
  rw [compact, String.toList_append]
  exact hjoin

/-- The compact report has one line for each complaint, in their order, and then the line with their numbers. -/
def LineByLine (r : ScanResult) : Prop :=
  linesOf (compact r).toList = r.complaints.map (·.line.toList) ++ [(summaryLine r).toList]

theorem length_linesOf_compact_iff {r : ScanResult} :
    (linesOf (compact r).toList).length = r.complaints.length + 1 ↔ ∀ c ∈ r.complaints, c.OneLine := by
  have hrows := @length_flatMap_linesOf_eq_iff (r.complaints.map Complaint.line)
  rw [List.flatMap_map, List.length_map] at hrows
  rw [linesOf_compact, List.length_append, List.length_singleton, Nat.add_right_cancel_iff, hrows, List.forall_mem_map]
  simp only [Complaint.oneLine_line]

theorem lineByLine_iff {r : ScanResult} : LineByLine r ↔ ∀ c ∈ r.complaints, c.OneLine := by
  constructor
  · intro h
    rw [← length_linesOf_compact_iff, h]
    simp
  · intro h
    have hlines : r.complaints.flatMap (fun c => linesOf c.line.toList) =
        r.complaints.flatMap fun c => [c.line.toList] :=
      List.flatMap_congr fun c hc => linesOf_of_not_mem (Complaint.oneLine_line.2 (h c hc))
    rw [LineByLine, linesOf_compact, hlines, List.map_eq_flatMap]

end Report

/-! ## What rules and hooks say -/

/-- A complaint about the file of a match and under the name of its rule. It says what the rule says, or it says
something on one line around the matched text, which is on one line itself. -/
structure Match.Says (m : Match) (c : Complaint) : Prop where
  path_eq : c.path = m.path
  rule_eq : c.rule = m.rule.name
  message : c.message = m.rule.description ∨ OneLine (String.ofList m.matched) ∧
    ∃ before after, OneLine before ∧ OneLine after ∧ c.message = before ++ String.ofList m.matched ++ after

namespace Match.Says

variable {m : Match} {c c' : Complaint}

theorem self (m : Match) : m.Says m.complaint := ⟨rfl, rfl, .inl rfl⟩

theorem passed (h : m.Says c) (hpassed : c.Passed m.rule c') : m.Says c' := by
  rw [hpassed.frame]
  exact ⟨h.path_eq, h.rule_eq, h.message⟩

theorem oneLine (h : m.Says c) (hpath : OneLine m.path) (hname : OneLine m.rule.name)
    (hdescription : OneLine m.rule.description) : c.OneLine := by
  refine ⟨h.path_eq ▸ hpath, h.rule_eq ▸ hname, ?_⟩
  rcases h.message with heq | ⟨hmatched, before, after, hbefore, hafter, heq⟩
  · exact heq ▸ hdescription
  · rw [heq, oneLine_append, oneLine_append]
    exact ⟨⟨hbefore, hmatched⟩, hafter⟩

/-- A hook that passes over comments says what the rule says. -/
theorem of_skipCommented {marker : String} {given : List Complaint} (h : skipCommented marker m = .ok given)
    (hc : c ∈ given) : m.Says c := by
  unfold skipCommented at h
  split at h <;> obtain rfl := Except.ok.inj h
  · simp at hc
  · obtain rfl := List.mem_singleton.1 hc
    exact .self m

end Match.Says

/-- The match that a finding was made of. -/
def Finding.toMatch (f : Finding) : Match := ⟨f.rule.info, f.path, f.text, f.span⟩

theorem Finding.Placed.says {source : FileSource} {plan : List Task} {f : Finding} (h : f.Placed source plan)
    (hooks : ∀ hook, f.rule.hook = some hook → ∀ given, hook f.toMatch = .ok given → ∀ c ∈ given, f.toMatch.Says c) :
    f.toMatch.Says f.complaint := by
  obtain ⟨found, hbuild, hc⟩ := h.built
  cases hhook : f.rule.hook with
  | none =>
    rw [Rule.build_of_hook_none hhook] at hbuild
    obtain rfl := Except.ok.inj hbuild
    rw [List.mem_singleton.1 hc]
    exact .self f.toMatch
  | some hook =>
    rw [Rule.build, hhook] at hbuild
    obtain ⟨given, hgiven, -, hpassed⟩ := Match.build_ok_iff.1 hbuild
    obtain ⟨c, hmem, hpass⟩ := exists_of_forall₂ hpassed.flip hc
    exact (hooks hook hhook given hgiven c hmem).passed hpass

namespace Scanner

variable {s : Scanner} {source : FileSource} {r : ScanResult}

/-- No newline comes into a report from the names of files, from what the rules say or from what their hooks say of the
matches in these files. -/
structure InLines (s : Scanner) (source : FileSource) : Prop where
  paths : ∀ path ∈ source.candidates, OneLine path
  names : ∀ rule ∈ s.rules.rules, OneLine rule.info.name
  descriptions : ∀ rule ∈ s.rules.rules, OneLine rule.info.description
  hooks : ∀ rule ∈ s.rules.rules, ∀ hook, rule.hook = some hook →
    ∀ path ∈ source.candidates, ∀ text, source.read path = .ok text → ∀ span ∈ (rule.finder.findAll text).spans,
      ∀ given, hook ⟨rule.info, path, text, span⟩ = .ok given → ∀ c ∈ given, Match.Says ⟨rule.info, path, text, span⟩ c

theorem Reports.oneLine (h : s.Reports source r) (hlines : s.InLines source) : ∀ c ∈ r.complaints, c.OneLine := by
  intro c hc
  obtain ⟨f, hf, rfl⟩ := h.exists_placed hc
  obtain ⟨t, ht, hpath, hrule⟩ := hf.planned
  have hmem : f.rule ∈ s.rules.rules := Plan.rule_mem ht hrule
  have hcandidate : f.path ∈ source.candidates := hpath ▸ (List.mem_filter.1 (Plan.path_mem ht)).1
  have hsays : f.toMatch.Says f.complaint := hf.says fun hook hhook =>
    hlines.hooks f.rule hmem hook hhook f.path hcandidate f.text hf.read f.span hf.matched
  exact hsays.oneLine (hlines.paths _ hcandidate) (hlines.names _ hmem) (hlines.descriptions _ hmem)

theorem Reports.total_eq (h : s.Reports source r) : r.total = r.complaints.length := by
  obtain ⟨runs, b, rfl, -, -⟩ := h.exists_runs
  exact (gather_counts runs b).1

/-- The lines of the compact report of a scan are those that its complaints bring, in their order, and the one with
their numbers. Each complaint has one, and the number of lines is told by the last of them, exactly if no complaint has a
newline in its path, its rule or its message; and this is so if the rules, the hooks and the paths bring none. -/
theorem compact_lines (s : Scanner) (source : FileSource) (r : ScanResult) (h : s.Reports source r) :
    linesOf (Report.compact r).toList =
      r.complaints.flatMap (fun c => linesOf c.line.toList) ++ [(Report.summaryLine r).toList] ∧
    (Report.LineByLine r ↔ ∀ c ∈ r.complaints, c.OneLine) ∧
    ((linesOf (Report.compact r).toList).length = r.total + 1 ↔ Report.LineByLine r) ∧
    r.total = r.complaints.length ∧
    (s.InLines source → Report.LineByLine r) := by
  refine ⟨Report.linesOf_compact r, Report.lineByLine_iff, ?_, h.total_eq, fun hlines => ?_⟩
  · rw [h.total_eq, Report.length_linesOf_compact_iff, Report.lineByLine_iff]
  · exact Report.lineByLine_iff.2 (h.oneLine hlines)

/-- One file with the given text. -/
def oneFile (text : String) : FileSource where
  candidates := ["a.py"]
  read _ := .ok text.toList

/-- Says of every match what the rule says and what was matched. -/
def quote : Hook := fun m =>
  .ok [m.complaint, { m.complaint with message := "matched '" ++ String.ofList m.matched ++ "'" }]

theorem says_of_quote {m : Match} (hmatched : OneLine (String.ofList m.matched)) {given : List Complaint}
    (h : quote m = .ok given) {c : Complaint} (hc : c ∈ given) : m.Says c := by
  obtain rfl := Except.ok.inj h
  rcases List.mem_pair.1 hc with rfl | rfl
  · exact .self m
  · exact ⟨rfl, rfl, .inr ⟨hmatched, "matched '", "'", by decide, by decide, rfl⟩⟩

/-- A rule whose matches go over two lines. -/
def pair : RuleDefinition where
  name := "pair"
  description := "FIXME before TODO"
  capture := some (.pattern "FIXME\\nTODO" {})
  severity := some .warning
  included := ["*"]

/-- A rule that passes over comments, one that quotes its matches, and one whose matches are not on one line. -/
def quoted : List RuleDefinition :=
  [{ Plan.todo with hook := some (skipCommented "#") }, { fixme with hook := some quote }, pair]

def quotedText : String := "FIXME\nTODO # TODO"

def quotedLines : List String := [
  "a.py:1:1: CRITICAL [fixme] FIXME left in code",
  "a.py:1:1: CRITICAL [fixme] matched 'FIXME'",
  "a.py:1:1: WARNING [pair] FIXME before TODO",
  "a.py:2:1: WARNING [todo] TODO left in code"]

theorem inLines_of_load_quoted {rules : RuleSet} (hload : (RuleSet.load [inlineSource quoted] {}).2 = .ok rules)
    (h : ∀ rule ∈ rules.rules, OneLine rule.info.name ∧ OneLine rule.info.description ∧
      (rule.hook = none ∨ ∀ span ∈ (rule.finder.findAll quotedText.toList).spans,
        OneLine (String.ofList ((span.slice? quotedText.toList).getD [])))) :
    InLines ⟨rules, []⟩ (oneFile quotedText) where
  paths := by decide
  names rule hrule := (h rule hrule).1
  descriptions rule hrule := (h rule hrule).2.1
  hooks rule hrule hook hhook path _ text hread span hspan given hgiven c hc := by
    obtain rfl := Except.ok.inj hread
    obtain ⟨source, hsource, ds, hds, d, hd, hsame⟩ := RuleSet.hook_of_load hload hrule
    obtain rfl := List.mem_singleton.1 hsource
    obtain rfl := Except.ok.inj hds
    simp only [quoted, List.mem_cons, List.not_mem_nil, or_false] at hd
    rcases hd with rfl | rfl | rfl <;> cases hsame.symm.trans hhook
    · exact .of_skipCommented hgiven hc
    · rcases (h rule hrule).2.2 with hnone | hmatched
      · cases hnone.symm.trans hhook
      · have hquoted : OneLine (String.ofList (Match.mk rule.info path quotedText.toList span).matched) :=
          hmatched span hspan
        exact says_of_quote hquoted hgiven hc

theorem quoted_compact_lines : ∃ rules r, (RuleSet.load [inlineSource quoted] {}).2 = .ok rules ∧
    Reports ⟨rules, []⟩ (oneFile quotedText) r ∧ InLines ⟨rules, []⟩ (oneFile quotedText) ∧
    r.complaints.map Complaint.line = quotedLines ∧
    (linesOf (Report.compact r).toList).length = r.total + 1 ∧ Report.LineByLine r := by
  have h : ((RuleSet.load [inlineSource quoted] {}).2.toOption.map fun rules =>
      (rules.rules.all (fun rule => OneLine rule.info.name ∧ OneLine rule.info.description ∧
          (rule.hook = none ∨ ∀ span ∈ (rule.finder.findAll quotedText.toList).spans,
            OneLine (String.ofList ((span.slice? quotedText.toList).getD [])))),
        (scan ⟨rules, []⟩ (oneFile quotedText) .never).2.toOption.map fun r => r.complaints.map Complaint.line)) =
      some (true, some quotedLines) := by
    simp only [scan, plan, Plan.make_eq_insertSort, gather_eq_insertSort]
    decide +kernel
  obtain ⟨rules, hload, hresult⟩ := toOption_map_ok h
  obtain ⟨hall, hresult⟩ := Prod.mk.inj hresult
  obtain ⟨r, hr, hcomplaints⟩ := toOption_map_ok hresult
  have hreports : Reports ⟨rules, []⟩ (oneFile quotedText) r := .inr ⟨_, hr⟩
  have hlines : InLines ⟨rules, []⟩ (oneFile quotedText) :=
    inLines_of_load_quoted hload fun rule hrule => of_decide_eq_true (List.all_eq_true.1 hall rule hrule)
  obtain ⟨-, -, hlength, -, hlineByLine⟩ := compact_lines ⟨rules, []⟩ (oneFile quotedText) r hreports
  exact ⟨rules, r, hload, hreports, hlines, hcomplaints, hlength.2 (hlineByLine hlines), hlineByLine hlines⟩

theorem exists_not_lineByLine {definitions : List RuleDefinition} {source : FileSource} {total : Nat} {output : String}
    (h : ((RuleSet.load [inlineSource definitions] {}).2.toOption.map fun rules =>
      (scan ⟨rules, []⟩ source .never).2.toOption.map fun r => (r.total, Report.compact r)) =
        some (some (total, output))) (hlength : (linesOf output.toList).length ≠ total + 1) :
    ∃ rules r, (RuleSet.load [inlineSource definitions] {}).2 = .ok rules ∧ Reports ⟨rules, []⟩ source r ∧
      r.total = total ∧ Report.compact r = output ∧ ¬Report.LineByLine r := by
  obtain ⟨rules, hload, hresult⟩ := toOption_map_ok h
  obtain ⟨r, hr, heq⟩ := toOption_map_ok hresult
  obtain ⟨rfl, rfl⟩ := Prod.mk.inj heq
  have hreports : Reports ⟨rules, []⟩ source r := .inr ⟨_, hr⟩
  refine ⟨rules, r, hload, hreports, rfl, rfl, fun hlines => hlength ?_⟩
  rw [hreports.total_eq]
  exact Report.length_linesOf_compact_iff.2 (Report.lineByLine_iff.1 hlines)

/-- One complaint has two lines if the description of its rule ends in a newline, and one that quotes a match of two
lines has two as well. -/
theorem newlines_not_lineByLine :
    (∃ rules r, (RuleSet.load [inlineSource [{ Plan.todo with description := "TODO left in code\n" }]] {}).2 = .ok rules ∧
      Reports ⟨rules, []⟩ (oneFile "TODO") r ∧ r.total = 1 ∧
      Report.compact r = "a.py:1:1: WARNING [todo] TODO left in code\n\n1 Complaints found: 1 Warnings, 0 Critical." ∧
      ¬Report.LineByLine r) ∧
    ∃ rules r, (RuleSet.load [inlineSource [{ pair with hook := some quote }]] {}).2 = .ok rules ∧
      Reports ⟨rules, []⟩ (oneFile quotedText) r ∧ r.total = 2 ∧
      Report.compact r = "a.py:1:1: WARNING [pair] FIXME before TODO\n" ++
        "a.py:1:1: WARNING [pair] matched 'FIXME\nTODO'\n2 Complaints found: 2 Warnings, 0 Critical." ∧
      ¬Report.LineByLine r := by
  constructor <;> refine exists_not_lineByLine ?_ (by decide +kernel)
  all_goals
    simp only [scan, plan, Plan.make_eq_insertSort, gather_eq_insertSort]
    decide +kernel

end Scanner

end PatternLint
