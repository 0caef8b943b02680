import PatternLint.Proofs.Scan.Single
import PatternLint.Rule.Builtin
/-!
# Lines that a merge leaves behind

`placedLines` numbers the lines of a text and says which bytes they have, and `isMarkerLine` says which lines are
markers. The pattern of the rule knows nothing of lines: it asks for a place where one begins, reads a marker, and asks
for a place where one ends. Main statement: what the rule `merge-conflict-marker` finds are the marker lines, all of
them in their order, and each makes one complaint about that line alone.
-/
namespace PatternLint

/-! ## Lines and their places -/

/-- A line of a text with its number, counted from one, and its bytes without the newline. -/
structure PlacedLine where
  number : Nat
  span : Span
  line : List Char
deriving DecidableEq, Repr

/-- The places of lines that follow one another, of which the first has the number and starts at the byte. -/
def placeLines (number start : Nat) : List (List Char) → List PlacedLine
  | [] => []
  | line :: lines =>
    ⟨number, ⟨start, start + byteLength line⟩, line⟩ :: placeLines (number + 1) (start + byteLength line + 1) lines

/-- The lines of a text with their places. -/
def placedLines (text : List Char) : List PlacedLine := placeLines 1 0 (linesOf text)

/-- Nothing of the line of a place stands before it. -/
def LineStarts (before : List Char) : Prop := before = [] ∨ before.getLast? = some '\n'

/-- Nothing of the line of a place stands after it. -/
def LineEnds (after : List Char) : Prop := after = [] ∨ after.head? = some '\n'

section Lines

variable {text before line line' after after' : List Char} {number start : Nat} {l : PlacedLine}

theorem firstPiece_append_of_lineEnds (hline : '\n' ∉ line) (h : LineEnds after) :
    firstPiece (line ++ after) = line := by
  rw [firstPiece_append_of_not_mem hline]
  rcases h with rfl | h
  · simp [firstPiece]
  · obtain ⟨rest, rfl⟩ := List.head?_eq_some_iff.1 h
    rw [firstPiece_newline, List.append_nil]

theorem line_eq_of_append (hline : '\n' ∉ line) (hline' : '\n' ∉ line') (h : LineEnds after) (h' : LineEnds after')
    (heq : line ++ after = line' ++ after') : line = line' := by
  rw [← firstPiece_append_of_lineEnds hline h, heq, firstPiece_append_of_lineEnds hline' h']

theorem lastPiece_of_lineStarts (h : LineStarts before) : lastPiece before = [] := by
  rcases h with rfl | h
  · rfl
  · obtain ⟨early, rfl⟩ := List.getLast?_eq_some_iff.1 h
    exact lastPiece_append_newline early

/-- A beginning of a text up to a later line begins with the first line and its newline. -/
theorem exists_behind_first (hline : '\n' ∉ line) (h : before.getLast? = some '\n')
    (heq : line ++ '\n' :: text = before ++ after) :
    ∃ before', before = line ++ '\n' :: before' ∧ text = before' ++ after ∧ LineStarts before' := by
  have hmem : '\n' ∈ before := List.mem_of_getLast? h
  obtain ⟨before', hbefore⟩ : ∃ before', before = firstPiece before ++ '\n' :: before' := by
    rcases firstPiece_cases before with hall | hsome
    · exact absurd (hall ▸ hmem) (newline_not_mem_firstPiece before)
    · exact hsome
  have hfirst : firstPiece before = line := by
    have hsame : firstPiece before ++ '\n' :: (before' ++ after) = line ++ '\n' :: text := by
      rw [heq]
      conv_rhs => rw [hbefore]
      simp
    exact line_eq_of_append (newline_not_mem_firstPiece _) hline (.inr rfl) (.inr rfl) hsame
  rw [hfirst] at hbefore
  subst hbefore
  refine ⟨before', rfl, by simpa using heq, ?_⟩
  cases before' with
  | nil => exact .inl rfl
  | cons x before' => exact .inr (by simpa [List.getLast?_append, List.getLast?_cons_cons] using h)

theorem count_newline_behind (hline : '\n' ∉ line) (before : List Char) :
    (line ++ '\n' :: before).count '\n' = before.count '\n' + 1 := by
  rw [List.count_append, List.count_eq_zero_of_not_mem hline, List.count_cons_self, Nat.zero_add]

theorem byteLength_behind (line before : List Char) :
    byteLength (line ++ '\n' :: before) = byteLength line + 1 + byteLength before := by
  have hnewline : '\n'.utf8Size = 1 := by decide
  rw [byteLength_append, byteLength_cons, hnewline]
  omega

theorem lineStarts_behind (line : List Char) (h : LineStarts before) : LineStarts (line ++ '\n' :: before) := by
  refine .inr ?_
  rcases h with rfl | h
  · simp
  · rw [List.getLast?_append, List.getLast?_cons, h]
    rfl

/-- The lines of a text are what stands between two newlines or ends of the text. -/
theorem mem_placeLines_linesOf : l ∈ placeLines number start (linesOf text) ↔
    ∃ before after, text = before ++ (l.line ++ after) ∧ LineStarts before ∧ LineEnds after ∧ '\n' ∉ l.line ∧
      l.number = number + before.count '\n' ∧
      l.span = ⟨start + byteLength before, start + byteLength before + byteLength l.line⟩ := by
  induction hn : text.length using Nat.strong_induction_on generalizing text number start with
  | h n ih =>
    rcases firstPiece_cases text with hall | ⟨tail, htail⟩
    · have hnone : '\n' ∉ text := hall ▸ newline_not_mem_firstPiece text
      rw [linesOf_of_not_mem hnone, placeLines, placeLines, List.mem_singleton]
      constructor
      · rintro rfl
        exact ⟨[], [], by simp, .inl rfl, .inl rfl, hnone, rfl, rfl⟩
      · rintro ⟨before, after, htext, hstarts, hends, hline, hnumber, hspan⟩
        have hbefore : before = [] := hstarts.resolve_right fun h => hnone (by simp [htext, List.mem_of_getLast? h])
        have hafter : after = [] := hends.resolve_right fun h => hnone (by simp [htext, List.mem_of_head? h])
        subst hbefore hafter
        obtain ⟨number', span', line'⟩ := l
        obtain rfl : text = line' := by simpa using htext
        simp only at hnumber hspan
        simp [hnumber, hspan]
    · have hline := newline_not_mem_firstPiece text
      have hlines : linesOf text = firstPiece text :: linesOf tail := by
        conv_lhs => rw [htail, linesOf_append_newline, linesOf_of_not_mem hline]
        rfl
      have hless : tail.length < n := by
        have hlength := congrArg List.length htail
        rw [List.length_append, List.length_cons, hn] at hlength
        omega
      rw [hlines, placeLines, List.mem_cons, ih _ hless rfl]
      generalize firstPiece text = line at htail hline
      subst htail
      constructor
      · rintro (rfl | ⟨before, after, rfl, hstarts, hends, hl, hnumber, hspan⟩)
        · exact ⟨[], '\n' :: tail, rfl, .inl rfl, .inr rfl, hline, rfl, rfl⟩
        · refine ⟨line ++ '\n' :: before, after, by simp, lineStarts_behind line hstarts, hends, hl, ?_, ?_⟩
          · rw [hnumber, count_newline_behind hline]
            omega
          · rw [hspan, byteLength_behind]
            simp only [Span.mk.injEq]
            omega
      · rintro ⟨before, after, htext, rfl | hstarts, hends, hl, hnumber, hspan⟩
        · obtain ⟨number', span', line'⟩ := l
          obtain rfl : line = line' := line_eq_of_append hline hl (.inr rfl) hends htext
          simp only at hnumber hspan
          exact .inl (by simp [hnumber, hspan])
        · obtain ⟨before', rfl, htail, hstarts'⟩ := exists_behind_first hline hstarts htext
          refine .inr ⟨before', after, htail, hstarts', hends, hl, ?_, ?_⟩
          · rw [hnumber, count_newline_behind hline]
            omega
          · rw [hspan, byteLength_behind]
            simp only [Span.mk.injEq]
            omega

theorem placeLines_pairwise (lines : List (List Char)) : ∀ (number start : Nat),
    (∀ l ∈ placeLines number start lines, start ≤ l.span.start) ∧
      (placeLines number start lines).Pairwise fun l l' => l.span.start < l'.span.start := by
  induction lines with
  | nil => intro number start; exact ⟨by simp [placeLines], .nil⟩
  | cons line lines ih =>
    intro number start
    obtain ⟨hle, hpairwise⟩ := ih (number + 1) (start + byteLength line + 1)
    refine ⟨fun l hl => ?_, List.pairwise_cons.2 ⟨fun l hl => ?_, hpairwise⟩⟩
    · rcases List.mem_cons.1 hl with rfl | hl
      · exact Nat.le_refl start
      · have := hle l hl
        omega
    · have := hle l hl
      simp only
      omega

end Lines

namespace Builtin

open Regex

variable {text line : List Char} {c d : Cursor} {span : Span}

/-- Seven times one of the four characters, and then nothing, a carriage return, or a space and anything. -/
def isMarkerLine (line : List Char) : Bool :=
  ['<', '|', '=', '>'].any fun x => line.take 7 = List.replicate 7 x &&
    (line.drop 7 = [] || line.drop 7 = ['\r'] || (line.drop 7).head? = some ' ')

theorem isMarkerLine_iff : isMarkerLine line = true ↔ ∃ x ∈ ['<', '|', '=', '>'], ∃ rest,
    line = List.replicate 7 x ++ rest ∧ (rest = [] ∨ rest = ['\r'] ∨ ∃ label, rest = ' ' :: label) := by
  simp only [isMarkerLine, List.any_eq_true, Bool.and_eq_true, Bool.or_eq_true, decide_eq_true_eq, or_assoc,
    List.head?_eq_some_iff]
  constructor
  · rintro ⟨x, hx, htake, hrest⟩
    exact ⟨x, hx, line.drop 7, by rw [← htake, List.take_append_drop], hrest⟩
  · rintro ⟨x, hx, rest, rfl, hrest⟩
    exact ⟨x, hx, by simp, by simpa using hrest⟩

/-! ## The pattern -/

/-- Every character but a newline. -/
def anyButNewline : CharSet := ⟨[(0, 9), (11, CharSet.top)]⟩

theorem contains_anyButNewline {x : Char} : anyButNewline.contains x = true ↔ x ≠ '\n' := by
  have hvalid : x.toNat ≤ CharSet.top := by
    have := x.valid
    simp only [UInt32.isValidChar, Nat.isValidChar] at this
    show x.val.toNat ≤ 0x10FFFF
    omega
  have hnewline : x = '\n' ↔ x.toNat = 10 := by
    rw [← Char.toNat_inj]
    rfl
  rw [ne_eq, hnewline, CharSet.contains, anyButNewline]
  simp only [CharSet.covers, Nat.not_lt_zero, if_false]
  split
  · simp
    omega
  · split
    · simp
      omega
    · simp
      omega

/-- Seven equal characters. -/
def ruler (x : Char) : Regex := .times (.literal [x]) 7 (some 7) true

/-- A space and what follows it on the line, or nothing. -/
def label : Regex := .times (.seq (.literal [' ']) (.times (.set anyButNewline false) 0 none true)) 0 (some 1) true

/-- A carriage return, or nothing. -/
def carriageReturn : Regex := .times (.literal ['\r']) 0 (some 1) true

/-- The expression that the pattern of the rule stands for. -/
def conflictMarker : Regex :=
  .seq (.assertion (.lineStart false))
    (.seq (.alt (ruler '<') (.alt (ruler '|') (.alt (ruler '=') (ruler '>'))))
      (.seq label (.seq carriageReturn (.assertion (.lineEnd false)))))

theorem rulers_matchesFrom : (Regex.alt (ruler '<') (.alt (ruler '|') (.alt (ruler '=') (ruler '>')))).MatchesFrom c d ↔
    ∃ x ∈ ['<', '|', '=', '>'], c.Reads (List.replicate 7 x) d := by
  simp only [matchesFrom_alt, ruler, matchesFrom_replicate]
  simp

theorem label_matchesFrom : label.MatchesFrom c d ↔
    ∃ word, c.Reads word d ∧ (word = [] ∨ ∃ rest, word = ' ' :: rest ∧ '\n' ∉ rest) := by
  rw [label, matchesFrom_optional]
  constructor
  · rintro (rfl | ⟨e, he, hrest⟩)
    · exact ⟨[], by simp, .inl rfl⟩
    · obtain ⟨rest, hrest, hd⟩ := matchesFrom_many.1 hrest
      exact ⟨' ' :: rest, Cursor.Reads.trans he hd, .inr ⟨rest, rfl, fun hmem =>
        contains_anyButNewline.1 (hrest _ hmem) rfl⟩⟩
  · rintro ⟨word, hd, rfl | ⟨rest, rfl, hrest⟩⟩
    · exact .inl (Cursor.reads_nil.1 hd)
    · obtain ⟨e, he, hd⟩ := Cursor.reads_cons.1 hd
      refine .inr ⟨e, he, matchesFrom_many.2 ⟨rest, fun x hx => contains_anyButNewline.2 ?_, hd⟩⟩
      exact ne_of_mem_of_not_mem hx hrest

theorem carriageReturn_matchesFrom : carriageReturn.MatchesFrom c d ↔ c.Reads [] d ∨ c.Reads ['\r'] d := by
  rw [carriageReturn, matchesFrom_optional, Cursor.reads_nil]
  rfl

/-- What may stand behind the seven characters. A carriage return behind a label belongs to the label as well. -/
theorem exists_label_iff : (∃ e, label.MatchesFrom c e ∧ carriageReturn.MatchesFrom e d) ↔
    ∃ rest, c.Reads rest d ∧ '\n' ∉ rest ∧ (rest = [] ∨ rest = ['\r'] ∨ ∃ word, rest = ' ' :: word) := by
  simp only [label_matchesFrom, carriageReturn_matchesFrom]
  constructor
  · rintro ⟨e, ⟨word, he, rfl | ⟨rest, rfl, hrest⟩⟩, hd | hd⟩
    · exact ⟨[], he.trans hd, by simp, .inl rfl⟩
    · exact ⟨['\r'], he.trans hd, by simp, .inr (.inl rfl)⟩
    · exact ⟨' ' :: rest, by simpa using he.trans hd, by simpa using hrest, .inr (.inr ⟨rest, rfl⟩)⟩
    · exact ⟨' ' :: (rest ++ ['\r']), by simpa using he.trans hd, by simpa using hrest, .inr (.inr ⟨_, rfl⟩)⟩
  · rintro ⟨rest, hd, hline, rfl | rfl | ⟨word, rfl⟩⟩
    · exact ⟨d, ⟨[], hd, .inl rfl⟩, .inl (by simp)⟩
    · exact ⟨c, ⟨[], by simp, .inl rfl⟩, .inr hd⟩
    · exact ⟨d, ⟨' ' :: word, hd, .inr ⟨word, rfl, by simpa using hline⟩⟩, .inl (by simp)⟩

theorem conflictMarker_matchesFrom : conflictMarker.MatchesFrom c d ↔
    (c.before = none ∨ c.before = some '\n') ∧ LineEnds d.rest ∧
      ∃ line, c.Reads line d ∧ '\n' ∉ line ∧ isMarkerLine line = true := by
  have hstart : (Assertion.lineStart false).holds c.before c.after = true ↔ c.before = none ∨ c.before = some '\n' := by
    simp [Assertion.holds]
  have hend : (Assertion.lineEnd false).holds d.before d.after = true ↔ LineEnds d.rest := by
    simp [Assertion.holds, LineEnds, Cursor.after]
  have hruler : ∀ {x : Char}, x ∈ ['<', '|', '=', '>'] → '\n' ∉ List.replicate 7 x := by
    intro x hx hnewline
    obtain rfl := List.eq_of_mem_replicate hnewline
    simp at hx
  constructor
  · rintro ⟨_, ⟨hbefore, rfl⟩, e, hx, f, hlabel, _, hreturn, hafter, rfl⟩
    obtain ⟨x, hmem, hx⟩ := rulers_matchesFrom.1 hx
    obtain ⟨rest, hrest, hline, hmarker⟩ := exists_label_iff.1 ⟨f, hlabel, hreturn⟩
    refine ⟨hstart.1 hbefore, hend.1 hafter, _, hx.trans hrest, ?_, isMarkerLine_iff.2 ⟨x, hmem, rest, rfl, hmarker⟩⟩
    rw [List.mem_append, not_or]
    exact ⟨hruler hmem, hline⟩
  · rintro ⟨hbefore, hafter, line, hd, hline, hmarker⟩
    obtain ⟨x, hmem, rest, rfl, htail⟩ := isMarkerLine_iff.1 hmarker
    obtain ⟨e, hx, hrest⟩ := Cursor.reads_append.1 hd
    rw [List.mem_append, not_or] at hline
    obtain ⟨f, hlabel, hreturn⟩ := exists_label_iff.2 ⟨rest, hrest, hline.2, htail⟩
    exact ⟨c, ⟨hstart.2 hbefore, rfl⟩, e, rulers_matchesFrom.2 ⟨x, hmem, hx⟩, f, hlabel, d, hreturn, hend.2 hafter, rfl⟩

theorem conflictMarker_apart : conflictMarker.Apart := by
  refine .of_reads rfl (fun {c d} h => ?_) (fun {c d d'} h h' => ?_)
  · obtain ⟨-, -, line, hd, hline, hmarker⟩ := conflictMarker_matchesFrom.1 h
    refine ⟨line, ?_, hd, fun {u v e f} huv hu hv he hmatch => ?_⟩
    · rintro rfl
      simp [isMarkerLine] at hmarker
    · -- no line begins behind a part of the line
      obtain ⟨hbefore, -⟩ := conflictMarker_matchesFrom.1 hmatch
      obtain ⟨u, x, rfl⟩ := (List.eq_nil_or_concat' u).resolve_left hu
      have hx : e.before = some x := by simp [he.before]
      rw [hx] at hbefore
      simp only [reduceCtorEq, Option.some.injEq, false_or] at hbefore
      simp [huv, hbefore] at hline
  · obtain ⟨-, hends, line, hd, hline, -⟩ := conflictMarker_matchesFrom.1 h
    obtain ⟨-, hends', line', hd', hline', -⟩ := conflictMarker_matchesFrom.1 h'
    obtain rfl := line_eq_of_append hline hline' hends hends' (hd.rest.symm.trans hd'.rest)
    exact hd.eq hd'

/-- The places where the pattern matches are the marker lines. -/
theorem exists_conflictMarker_iff : (∃ c d, (Cursor.start text).Leads c ∧ conflictMarker.MatchesFrom c d ∧
    span = ⟨c.offset, d.offset⟩) ↔ span ∈ ((placedLines text).filter (isMarkerLine ·.line)).map (·.span) := by
  simp only [List.mem_map, List.mem_filter, placedLines, mem_placeLines_linesOf, conflictMarker_matchesFrom]
  constructor
  · rintro ⟨c, d, hc, ⟨hbefore, hends, line, hd, hline, hmarker⟩, rfl⟩
    obtain ⟨before, hreads⟩ := Cursor.leads_iff_reads.1 hc
    obtain ⟨htext, hoffset, hlast⟩ := Cursor.start_reads_iff.1 hreads
    refine ⟨⟨before.count '\n' + 1, ⟨c.offset, d.offset⟩, line⟩,
      ⟨⟨before, d.rest, ?_, ?_, hends, hline, ?_, ?_⟩, hmarker⟩, rfl⟩
    · rw [htext, hd.rest]
    · rw [hlast, List.getLast?_eq_none_iff] at hbefore
      exact hbefore
    · exact Nat.add_comm _ _
    · simp [hd.offset, hoffset]
  · rintro ⟨l, ⟨⟨before, after, htext, hstarts, hends, hline, -, hspan⟩, hmarker⟩, rfl⟩
    obtain ⟨c, hc, hrest⟩ := Cursor.exists_reads (c := .start text) htext
    obtain ⟨d, hd, hafter⟩ := Cursor.exists_reads hrest
    obtain ⟨-, hoffset, hlast⟩ := Cursor.start_reads_iff.1 hc
    refine ⟨c, d, hc.leads, ⟨?_, hafter ▸ hends, l.line, hd, hline, hmarker⟩, ?_⟩
    · rw [hlast, List.getLast?_eq_none_iff]
      exact hstarts
    · rw [hspan, hd.offset, hoffset]
      simp

/-! ## The rule -/

/-- Where a line of a text is, as a complaint says it. -/
theorem resolve_placedLine {l : PlacedLine} (hl : l ∈ placedLines text) : (resolve text l.span).firstLine = l.number ∧
    (resolve text l.span).lastLine = l.number ∧ (resolve text l.span).column = 1 := by
  obtain ⟨before, after, rfl, hstarts, -, hline, hnumber, hspan⟩ := mem_placeLines_linesOf.1 hl
  have hcuts : l.span.Cuts (before ++ (l.line ++ after)) before l.line after := by
    rw [hspan, Nat.zero_add]
    exact Span.cuts_append before l.line after
  have hone : '\n' ∉ dropLastIf '\n' l.line := fun h => hline ((dropLastIf_isPrefix _ _).subset h)
  rw [hcuts.resolve_single hone, hnumber, lastPiece_of_lineStarts hstarts]
  exact ⟨Nat.add_comm _ _, Nat.add_comm _ _, rfl⟩

/-- Lists of spans that start one after the other are the same if they have the same spans. -/
theorem spans_eq_of_mem_iff {ss ss' : List Span} (h : ss.Pairwise fun a b => a.start < b.start)
    (h' : ss'.Pairwise fun a b => a.start < b.start) (hmem : ∀ s, s ∈ ss ↔ s ∈ ss') : ss = ss' := by
  have hnodup : ∀ {l : List Span}, l.Pairwise (fun a b => a.start < b.start) → l.Nodup :=
    fun h => h.imp fun hlt heq => by simp [heq] at hlt
  refine List.Perm.eq_of_pairwise (fun a b _ _ hab hba => by omega) h h' ?_
  exact (List.perm_ext_iff_of_nodup (hnodup h) (hnodup h')).2 hmem

/-- The rule `merge-conflict-marker` finds the marker lines of a text, all of them in their order, and makes one
critical complaint of each, about that line alone and from its first column on. A scan of the text reports them. -/
theorem mergeConflictMarker_reports_lines : ∃ rule, mergeConflictMarker.check = .ok rule ∧
    ∀ (path : String) (text : List Char),
      let markers := (placedLines text).filter (isMarkerLine ·.line)
      rule.finder.findAll text = ⟨markers.map (·.span), []⟩ ∧
      ∃ complaints, (rule.run path text).complaints = .ok complaints ∧
        List.Forall₂ (fun l c => c.rule = "merge-conflict-marker" ∧ c.path = path ∧ c.severity = .critical ∧
          c.span = l.span ∧ c.location.firstLine = l.number ∧ c.location.lastLine = l.number ∧
          c.location.column = 1) markers complaints ∧
        (rule.accepts path = true → ∃ result,
          (Scanner.scan ⟨⟨[rule]⟩, []⟩ ⟨[path], fun _ => .ok text⟩ .never).2 = .ok result ∧
            result.complaints = complaints) := by
  have hcheck : mergeConflictMarker.check.toOption.map Rule.name = some "merge-conflict-marker" := by decide +kernel
  obtain ⟨rule, hrule, -⟩ := toOption_map_ok hcheck
  have hmakes := RuleDefinition.check_makes hrule
  have hfinder : rule.finder = .pattern conflictMarker.program := Rule.finder_of_makes hmakes rfl (by decide +kernel)
  refine ⟨rule, hrule, fun path text => ?_⟩
  intro markers
  have hspans : (rule.finder.findAll text).spans = markers.map (·.span) := by
    have htrans : Trans Span.Precedes Span.Precedes Span.Precedes := ⟨Span.Precedes.trans⟩
    refine spans_eq_of_mem_iff ((rule.finder.spans_precede text).pairwise.imp fun h => h.1) ?_ fun span => ?_
    · exact List.pairwise_map.2 ((placeLines_pairwise _ 1 0).2.filter _)
    · rw [Rule.mem_spans_iff conflictMarker_apart hfinder, exists_conflictMarker_iff]
  have hkeeps : rule.Keeps path text fun _ => true := Rule.keeps_all hmakes.hook
  refine ⟨?_, rule.kept path text fun _ => true, hkeeps.run_eq, ?_, fun h => Scanner.scan_single h hkeeps⟩
  · rw [← hspans, hfinder]
    rfl
  · rw [Rule.kept, List.filter_true, hspans, List.map_map, List.forall₂_map_right_iff, List.forall₂_same]
    intro l hl
    exact ⟨hmakes.name, rfl, Rule.severity_of_makes hmakes rfl l.span, rfl,
      resolve_placedLine (List.mem_of_mem_filter hl)⟩

/-- Six lines: a marker with a label, one that ends in a carriage return, a line of eight characters, an indented one,
and two markers at the end of the text, with and without a label. -/
def conflictedText : List Char :=
  "<<<<<<< é\n=======\r\n========\n >>>>>>> b\n||||||| \n>>>>>>>".toList

/-- The lines 1, 2, 5 and 6 are reported. -/
theorem conflictedText_reports_lines : ∃ rule result, mergeConflictMarker.check = .ok rule ∧
    rule.accepts "a.py" = true ∧
    (Scanner.scan ⟨⟨[rule]⟩, []⟩ ⟨["a.py"], fun _ => .ok conflictedText⟩ .never).2 = .ok result ∧
    result.complaints.map (fun c => (c.location.firstLine, c.span)) =
      [(1, ⟨0, 10⟩), (2, ⟨11, 19⟩), (5, ⟨40, 48⟩), (6, ⟨49, 56⟩)] := by
  have haccepts : mergeConflictMarker.check.toOption.map (·.accepts "a.py") = some true := by decide +kernel
  obtain ⟨rule, hrule, haccepts⟩ := toOption_map_ok haccepts
  obtain ⟨rule', hrule', hreports⟩ := mergeConflictMarker_reports_lines
  obtain rfl := Except.ok.inj (hrule.symm.trans hrule')
  obtain ⟨-, complaints, -, hlines, hscan⟩ := hreports "a.py" conflictedText
  obtain ⟨result, hresult, rfl⟩ := hscan haccepts
  refine ⟨rule, result, hrule, haccepts, hresult, ?_⟩
  have hplaces : result.complaints.map (fun c => (c.location.firstLine, c.span)) =
      ((placedLines conflictedText).filter (isMarkerLine ·.line)).map fun l => (l.number, l.span) := by
    refine (List.forall₂_eq_eq_eq ▸ List.forall₂_map_left_iff.2 (List.forall₂_map_right_iff.2 ?_)).symm
    exact hlines.imp fun l c h => by simp [h]
  rw [hplaces]
  decide +kernel

end Builtin

end PatternLint
