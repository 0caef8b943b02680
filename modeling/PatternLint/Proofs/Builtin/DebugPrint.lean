import PatternLint.Proofs.Rule.Comments
import PatternLint.Proofs.Scan.Single
import PatternLint.Rule.Builtin
/-!
# Calls of `print`

`PrintCall` says what a call is in the words of the text: `print` that no word runs into, blanks, and an opening
parenthesis. A second call cannot begin within one, since there is no other `p` in it. Main statement: the rule
`debug-print` complains about the calls that have no `#` before them on their line, about each of them once and in
order.
-/
namespace PatternLint.Builtin

open Regex

variable {text before : List Char} {c d : Cursor} {span : Span}

/-- The span goes from a `print` that does not continue a word to the parenthesis that opens its arguments, with nothing
but blanks between them. -/
def PrintCall (text before : List Char) (span : Span) : Prop :=
  ∃ blanks rest, text = before ++ ("print".toList ++ blanks ++ ['('] ++ rest) ∧
    (∀ x, before.getLast? = some x → CharSet.word.contains x = false) ∧
    (∀ x ∈ blanks, CharSet.blank.contains x = true) ∧
    span = ⟨byteLength before, byteLength (before ++ "print".toList ++ blanks ++ ['('])⟩

/-- A `#` stands on the last line of a text. -/
def Commented (before : List Char) : Prop := ∃ early late, before = early ++ '#' :: late ∧ '\n' ∉ late

/-! ## The pattern -/

/-- The expression that the pattern of the rule stands for. -/
def printCall : Regex :=
  .seq (.assertion (.word .boundary false))
    (.seq (.literal "print".toList) (.seq (.times (.set .blank false) 0 none true) (.literal ['('])))

theorem printCall_matchesFrom : printCall.MatchesFrom c d ↔
    ∃ blanks, (∀ x ∈ blanks, CharSet.blank.contains x = true) ∧ c.Reads ("print".toList ++ blanks ++ ['(']) d ∧
      ∀ x, c.before = some x → CharSet.word.contains x = false := by
  have hp : CharSet.word.contains 'p' = true := by decide +kernel
  have hboundary : c.after = some 'p' → ((Assertion.word .boundary false).holds c.before c.after = true ↔
      ∀ x, c.before = some x → CharSet.word.contains x = false) := by
    intro hafter
    rw [hafter]
    cases c.before <;> simp [Assertion.holds, WordEdge.holds, Assertion.isWord, hp]
  have hafter : ∀ {blanks}, c.Reads ("print".toList ++ blanks ++ ['(']) d → c.after = some 'p' :=
    fun h => Cursor.Reads.after h
  constructor
  · rintro ⟨_, ⟨hword, rfl⟩, e, hprint, f, hblanks, hopen⟩
    obtain ⟨blanks, hblank, hf⟩ := matchesFrom_many.1 hblanks
    have hreads := (Cursor.Reads.trans hprint hf).trans hopen
    exact ⟨blanks, hblank, hreads, (hboundary (hafter hreads)).1 hword⟩
  · rintro ⟨blanks, hblank, hreads, hword⟩
    obtain ⟨f, hf, hopen⟩ := Cursor.reads_append.1 hreads
    obtain ⟨e, hprint, hblanks⟩ := Cursor.reads_append.1 hf
    exact ⟨c, ⟨(hboundary (hafter hreads)).2 hword, rfl⟩, e, hprint, f, matchesFrom_many.2 ⟨blanks, hblank, hblanks⟩,
      hopen⟩

theorem printCall_apart : printCall.Apart := by
  have hblank : CharSet.blank.contains '(' = false ∧ CharSet.blank.contains 'p' = false := by decide +kernel
  refine .of_reads rfl (fun {c d} h => ?_) (fun {c d d'} h h' => ?_)
  · obtain ⟨blanks, hblanks, hreads, -⟩ := printCall_matchesFrom.1 h
    refine ⟨_, by simp, hreads, fun {u v e f} hword hu hv he hmatch => ?_⟩
    -- what is left of the call would have to begin with another `p`
    obtain ⟨blanks', -, hreads', -⟩ := printCall_matchesFrom.1 hmatch
    obtain ⟨e', he', hv'⟩ := Cursor.reads_append.1 (hword ▸ hreads)
    obtain rfl := he.eq he'
    obtain ⟨x, u, rfl⟩ := List.exists_cons_of_ne_nil hu
    obtain ⟨y, v, rfl⟩ := List.exists_cons_of_ne_nil hv
    obtain rfl : y = 'p' := Option.some.inj (hv'.after.symm.trans (Cursor.Reads.after hreads'))
    have htail : "rint".toList ++ blanks ++ ['('] = u ++ 'p' :: v := (List.cons.inj hword).2
    have hmem : 'p' ∈ "rint".toList ++ blanks ++ ['('] := by
      rw [htail]
      simp
    have hnot : 'p' ∉ blanks := fun hmem => by simp [hblanks _ hmem] at hblank
    simp [hnot] at hmem
  · obtain ⟨blanks, hblanks, hreads, -⟩ := printCall_matchesFrom.1 h
    obtain ⟨blanks', hblanks', hreads', -⟩ := printCall_matchesFrom.1 h'
    -- the blanks are all that stand before the parenthesis
    have htake : ∀ {bs rest : List Char}, (∀ x ∈ bs, CharSet.blank.contains x = true) →
        (bs ++ '(' :: rest).takeWhile CharSet.blank.contains = bs := by
      intro bs rest hbs
      rw [List.takeWhile_append_of_pos hbs, List.takeWhile_cons_of_neg (by simp [hblank]), List.append_nil]
    have hrest := hreads.rest.symm.trans hreads'.rest
    simp only [List.append_assoc, List.append_cancel_left_eq, List.singleton_append] at hrest
    obtain rfl : blanks = blanks' := by rw [← htake hblanks, hrest, htake hblanks']
    exact hreads.eq hreads'

/-- The places where the pattern matches are the calls. -/
theorem exists_matchesFrom_iff : (∃ c d, (Cursor.start text).Leads c ∧ printCall.MatchesFrom c d ∧
    span = ⟨c.offset, d.offset⟩) ↔ ∃ before, PrintCall text before span := by
  constructor
  · rintro ⟨c, d, hc, hmatch, rfl⟩
    obtain ⟨before, hbefore⟩ := Cursor.leads_iff_reads.1 hc
    obtain ⟨blanks, hblanks, hreads, hword⟩ := printCall_matchesFrom.1 hmatch
    obtain ⟨htext, hoffset, hlast⟩ := Cursor.start_reads_iff.1 hbefore
    refine ⟨before, blanks, d.rest, ?_, ?_, hblanks, ?_⟩
    · rw [htext, hreads.rest]
    · rw [← hlast]
      exact hword
    · rw [hreads.offset, hoffset]
      simp
  · rintro ⟨before, blanks, rest, htext, hword, hblanks, rfl⟩
    obtain ⟨c, hc, hrest⟩ := Cursor.exists_reads (c := .start text) htext
    obtain ⟨d, hd, -⟩ := Cursor.exists_reads hrest
    obtain ⟨-, hoffset, hlast⟩ := Cursor.start_reads_iff.1 hc
    refine ⟨c, d, hc.leads, printCall_matchesFrom.2 ⟨blanks, hblanks, hd, ?_⟩, ?_⟩
    · rw [hlast]
      exact hword
    · rw [hd.offset, hoffset]
      simp

/-! ## The hook -/

theorem mem_lastPiece_iff : '#' ∈ lastPiece before ↔ Commented before := by
  constructor
  · intro hmem
    obtain ⟨early, late, hpiece⟩ := List.append_of_mem hmem
    have hlate : '\n' ∉ late := by
      intro hnewline
      apply newline_not_mem_lastPiece before
      simp [hpiece, hnewline]
    rcases lastPiece_cases before with hall | ⟨head, hhead⟩
    · exact ⟨early, late, hall.trans hpiece, hlate⟩
    · exact ⟨head ++ '\n' :: early, late, by rw [hhead, hpiece]; simp, hlate⟩
  · rintro ⟨early, late, rfl, hlate⟩
    rw [lastPiece_append_of_not_mem (by simpa using hlate)]
    simp

/-- Whether the match stands behind a `#` on its line. -/
def isCommented (text : List Char) (span : Span) : Bool :=
  occursIn ['#'] (lastPiece (((cutBytes? span.start text).map (·.1)).getD []))

theorem isCommented_iff (h : PrintCall text before span) : isCommented text span = true ↔ Commented before := by
  obtain ⟨blanks, rest, htext, -, -, rfl⟩ := h
  have hcut : cutBytes? (byteLength before) text = some (before, "print".toList ++ blanks ++ ['('] ++ rest) :=
    cutBytes?_eq_some_iff.2 ⟨htext.symm, rfl⟩
  rw [isCommented, hcut, occursIn_iff, ← mem_lastPiece_iff]
  exact List.singleton_infix_iff _ _

/-! ## The rule -/

/-- The rule `debug-print` makes complaints of a text in order, each about another call of `print`, and about every call
that is not commented out. A scan of the text reports them. -/
theorem debugPrint_reports_calls (severity : Severity) : ∃ rule, (debugPrint severity).check = .ok rule ∧
    ∀ (path : String) (text : List Char), ∃ complaints, (rule.run path text).complaints = .ok complaints ∧
      complaints.Pairwise (fun a b => a.span.start < b.span.start) ∧
      (∀ a ∈ complaints, a.rule = "debug-print" ∧ a.severity = severity ∧ a.path = path) ∧
      (∀ span, (∃ a ∈ complaints, a.span = span) ↔ ∃ before, PrintCall text before span ∧ ¬Commented before) ∧
      (rule.accepts path = true → ∃ result,
        (Scanner.scan ⟨⟨[rule]⟩, []⟩ ⟨[path], fun _ => .ok text⟩ .never).2 = .ok result ∧
          result.complaints = complaints) := by
  have hcheck : (debugPrint severity).check.toOption.map Rule.name = some "debug-print" := by
    cases severity <;> decide +kernel
  obtain ⟨rule, hrule, -⟩ := toOption_map_ok hcheck
  have hmakes := RuleDefinition.check_makes hrule
  have hfinder : rule.finder = .pattern printCall.program := Rule.finder_of_makes hmakes rfl (by decide +kernel)
  refine ⟨rule, hrule, fun path text => ?_⟩
  have hkeeps : rule.Keeps path text fun span => !isCommented text span := by
    intro span hspan
    have hin := rule.finder.span_in hspan
    rw [Rule.build, hmakes.hook]
    refine (Match.build_skipCommented "#" hin.1 hin.2.1).trans ?_
    have hsame : occursIn "#".toList (Match.mk rule.info path text span).lineStart = isCommented text span := rfl
    rw [hsame]
    cases h : isCommented text span <;> simp [h]
  refine ⟨rule.kept path text fun span => !isCommented text span, hkeeps.run_eq, ?_, ?_, ?_, ?_⟩
  · exact (rule.pairwise_kept path text _).imp fun h => h.1
  · intro a ha
    obtain ⟨span, -, rfl⟩ := List.mem_map.1 ha
    exact ⟨hmakes.name, Rule.severity_of_makes hmakes rfl span, rfl⟩
  · intro span
    have hmem : (∃ a ∈ rule.kept path text fun span => !isCommented text span, a.span = span) ↔
        span ∈ (rule.finder.findAll text).spans ∧ isCommented text span = false := by
      simp [Rule.kept, Match.complaint]
    rw [hmem, Rule.mem_spans_iff printCall_apart hfinder, exists_matchesFrom_iff]
    constructor
    · rintro ⟨⟨before, hcall⟩, hcommented⟩
      exact ⟨before, hcall, by simp [← isCommented_iff hcall, hcommented]⟩
    · rintro ⟨before, hcall, hcommented⟩
      exact ⟨⟨before, hcall⟩, by simpa [← isCommented_iff hcall] using hcommented⟩
  · exact fun haccepts => Scanner.scan_single haccepts hkeeps

/-- Four words `print`: one is called across two lines, one behind a `#`, one continues a word, and one comes behind a
letter that is not ASCII and a full stop. -/
def printedText : List Char := "print\n(x)  # print(y)\npprint(z) é.print(w)".toList

/-- Two calls are reported. -/
theorem printedText_reports_calls : ∃ rule result, (debugPrint .critical).check = .ok rule ∧
    rule.accepts "a.py" = true ∧
    (Scanner.scan ⟨⟨[rule]⟩, []⟩ ⟨["a.py"], fun _ => .ok printedText⟩ .never).2 = .ok result ∧
    result.complaints.map (·.span) = [⟨0, 7⟩, ⟨35, 41⟩] ∧
    ∀ span, (∃ a ∈ result.complaints, a.span = span) ↔
      ∃ before, PrintCall printedText before span ∧ ¬Commented before := by
  have h : ((debugPrint .critical).check.toOption.map fun rule => (rule.accepts "a.py",
      (rule.run "a.py" printedText).complaints.toOption.map (·.map (·.span)))) =
      some (true, some [⟨0, 7⟩, ⟨35, 41⟩]) := by decide +kernel
  obtain ⟨rule, hrule, hpair⟩ := toOption_map_ok h
  obtain ⟨haccepts, hspans⟩ := Prod.mk.inj hpair
  obtain ⟨complaints, hrun, hspans⟩ := toOption_map_ok hspans
  obtain ⟨rule', hrule', hreports⟩ := debugPrint_reports_calls .critical
  obtain rfl := Except.ok.inj (hrule.symm.trans hrule')
  obtain ⟨complaints', hrun', -, -, hcalls, hscan⟩ := hreports "a.py" printedText
  obtain rfl := Except.ok.inj (hrun.symm.trans hrun')
  obtain ⟨result, hresult, rfl⟩ := hscan haccepts
  exact ⟨rule, result, hrule, haccepts, hresult, hspans, hcalls⟩

end PatternLint.Builtin
