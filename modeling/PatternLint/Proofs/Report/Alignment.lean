import PatternLint.Proofs.Location.Resolve
import PatternLint.Report.Text
/-!
# Carets in the text report

In a report the row of carets stands below the row of its line, behind a margin of its own. Both margins are filled up
to the same width, but a line number is written in full where it is longer than that. Main statement: the carets are as
far from the characters that they are for as the line number has more than six digits, and so they stand right below
them in the first 999999 lines of a text. From the next line on they do not.
-/
namespace PatternLint

namespace Report

/-- There is one caret in the row for each character of `matched`, and the row above has that character `shift` places
to the right of it. -/
def AlignedAt (shift : Nat) (source carets matched : List Char) : Prop :=
  carets.count '^' = matched.length ∧ ∀ i, carets[i]? = some '^' →
    ∃ x, matched[(carets.take i).count '^']? = some x ∧ source[i + shift]? = some x

/-! ## Rows of a report -/

/-- Texts joined by newlines have the lines of all of them. -/
theorem linesOf_intercalate {rows : List String} (h : rows ≠ []) :
    linesOf ("\n".intercalate rows).toList = rows.flatMap fun row => linesOf row.toList := by
  induction rows with
  | nil => exact absurd rfl h
  | cons row rows ih =>
    cases rows with
    | nil => simp
    | cons row' rows =>
      rw [List.flatMap_cons, ← ih (by simp), ← linesOf_append_newline]
      simp

/-- Texts with empty lines between them keep their lines. -/
theorem infix_linesOf_intercalate {block : String} {blocks : List String} (h : block ∈ blocks) :
    linesOf block.toList <:+: linesOf ("\n\n".intercalate blocks).toList := by
  induction blocks with
  | nil => simp at h
  | cons b blocks ih =>
    cases blocks with
    | nil =>
      obtain rfl := List.mem_singleton.1 h
      simp
    | cons b' blocks =>
      have hlines : linesOf ("\n\n".intercalate (b :: b' :: blocks)).toList =
          linesOf b.toList ++ (linesOf [] ++ linesOf ("\n\n".intercalate (b' :: blocks)).toList) := by
        rw [← linesOf_append_newline, ← linesOf_append_newline]
        simp
      rw [hlines]
      rcases List.mem_cons.1 h with rfl | h
      · exact (List.prefix_append _ _).isInfix
      · exact (ih h).trans ((List.suffix_append _ _).trans (List.suffix_append _ _)).isInfix

theorem infix_linesOf_render (t : Theme) {r : ScanResult} {c : Complaint} (h : c ∈ r.complaints) :
    linesOf (complaintBlock t c).toList <:+: linesOf (render t r).toList := by
  have hblocks : linesOf (complaintBlock t c).toList <:+:
      linesOf ("\n\n".intercalate (r.complaints.map (complaintBlock t) ++ [closing t r])).toList :=
    infix_linesOf_intercalate (List.mem_append_left _ (List.mem_map_of_mem h))
  unfold render
  simp only
  split
  · rw [String.toList_append, String.toList_append, List.append_assoc,
      show "\n".toList ++ interruptedText.toList = '\n' :: interruptedText.toList from rfl, linesOf_append_newline]
    exact hblocks.trans (List.prefix_append _ _).isInfix
  · exact hblocks

@[simp] theorem toList_gutter_plain (label : String) :
    (gutter .plain label).toList = List.replicate (6 - label.length) ' ' ++ label.toList ++ ['|'] := by
  simp [gutter, alignRight, Theme.plain, Style.paint]

/-- The row of a source line without colours. -/
theorem toList_lineRow_plain (line : SourceLine) : (lineRow .plain line).toList =
    (gutter .plain (toString line.number)).toList ++ [' '] ++ line.text.toList := by
  simp [lineRow]

/-- The row of carets without colours. -/
theorem toList_caretRow_plain (caret : String) :
    (gutter .plain "" ++ " " ++ Theme.plain.caret.paint caret).toList =
      (gutter .plain "").toList ++ [' '] ++ caret.toList := by
  simp [Theme.plain, Style.paint]

/-- A complaint with one line and carets has their rows one below the other. -/
theorem infix_complaintRows (t : Theme) {c : Complaint} {line : SourceLine} {caret : String}
    (hlines : c.location.lines = [line]) (hcaret : c.location.caret = some caret) :
    [lineRow t line, gutter t "" ++ " " ++ t.caret.paint caret] <:+: complaintRows t c := by
  unfold complaintRows
  simp only [hlines, hcaret, lineRows, Option.toList_some, List.map_cons, List.map_nil]
  exact ⟨[_, _], c.help.toList.map _, rfl⟩

theorem infix_linesOf_complaintBlock {c : Complaint} {line : SourceLine} {caret : String}
    (hlines : c.location.lines = [line]) (hcaret : c.location.caret = some caret) (hline : '\n' ∉ line.text.toList)
    (hnewline : '\n' ∉ caret.toList) :
    [(lineRow .plain line).toList, (gutter .plain "").toList ++ [' '] ++ caret.toList] <:+:
      linesOf (complaintBlock .plain c).toList := by
  obtain ⟨head, tail, hrows⟩ := infix_complaintRows .plain hlines hcaret
  have hdigits : '\n' ∉ Nat.toDigits 10 line.number := fun h =>
    absurd (Nat.isDigit_of_mem_toDigits (by decide) (by decide) h) (by decide)
  have hsource : '\n' ∉ (lineRow .plain line).toList := by
    simp [toList_lineRow_plain, hline, hdigits]
  have hcarets : '\n' ∉ (gutter .plain "").toList ++ [' '] ++ caret.toList := by
    simp [hnewline]
  rw [complaintBlock, linesOf_intercalate (by rw [← hrows]; simp), ← hrows]
  refine ⟨head.flatMap fun row => linesOf row.toList, tail.flatMap fun row => linesOf row.toList, ?_⟩
  simp only [List.flatMap_append, List.flatMap_cons, List.flatMap_nil, toList_caretRow_plain,
    linesOf_of_not_mem hsource, linesOf_of_not_mem hcarets]
  rfl

/-! ## Alignment -/

/-- Margins before a line and before its carets move them apart by what their lengths differ. -/
theorem alignedAt_of_underlines {caret line pre matched margin blank : List Char} {shift : Nat}
    (h : Underlines caret line pre matched) (hne : matched ≠ []) (hblank : '^' ∉ blank)
    (hshift : margin.length = blank.length + shift) : AlignedAt shift (margin ++ line) (blank ++ caret) matched := by
  have hpos := List.length_pos_iff.2 hne
  have hcaret : caret = caretIndent pre ++ List.replicate matched.length '^' := by
    rw [h.caret_eq, max_eq_right hpos]
    rfl
  have hrow : blank ++ caret = (blank ++ caretIndent pre) ++ List.replicate matched.length '^' := by
    rw [hcaret, List.append_assoc]
  have hindent : '^' ∉ blank ++ caretIndent pre := by simp [hblank, caret_not_mem_caretIndent]
  have hcount : (blank ++ caret).count '^' = matched.length := by
    rw [hrow, List.count_append, List.count_eq_zero_of_not_mem hindent, List.count_replicate_self, Nat.zero_add]
  refine ⟨hcount, fun i hi => ?_⟩
  obtain ⟨hle, hlt⟩ := (getElem?_carets hindent _ i).1 (hrow ▸ hi)
  rw [List.length_append, caretIndent, List.length_map] at hle hlt
  rw [List.getElem?_append_right (by omega)] at hi
  obtain ⟨-, x, hx, hline⟩ := h.below hne _ hi
  refine ⟨x, ?_, ?_⟩
  · -- as many carets stand before this one as characters of the match before its own
    have hbefore : ((blank ++ caret).take i).count '^' = i - blank.length - pre.length := by
      rw [hrow, List.take_append, List.count_append, List.take_of_length_le (by simp [caretIndent]; omega),
        List.count_eq_zero_of_not_mem hindent, List.take_replicate, List.count_replicate_self, List.length_append,
        caretIndent, List.length_map]
      omega
    rw [hbefore]
    exact hx
  · rw [List.getElem?_append_right (by omega), ← hline]
    congr 1
    omega

theorem newline_not_mem_lineNumbered (before rest : List Char) :
    '\n' ∉ (lineNumbered (before ++ rest) (before.count '\n' + 1)).text.toList := by
  rw [lineNumbered_eq, shownLine, String.toList_ofList]
  intro h
  have hmem := (dropLastIf_isPrefix '\r' _).subset h
  simp [newline_not_mem_lastPiece, newline_not_mem_firstPiece] at hmem

theorem newline_not_mem_carets (pre : List Char) (w : Nat) : '\n' ∉ caretIndent pre ++ List.replicate w '^' := by
  intro h
  rcases List.mem_append.1 h with h | h
  · exact absurd (mem_caretIndent h) (by decide)
  · exact absurd (List.eq_of_mem_replicate h) (by decide)

variable {text before covered after : List Char} {span : Span}

/-- The report of a match within one line has the row of its line and right below it that of its carets. The characters
of the match stand above the carets, as many places to the right as the line number has more than six digits. -/
theorem render_aligned (h : span.Cuts text before covered after)
    (hone : (resolve text span).firstLine = (resolve text span).lastLine) (hne : underlined covered ≠ [])
    (c : Complaint) (hc : c.location = resolve text span) (r : ScanResult) (hr : c ∈ r.complaints) :
    ∃ source carets, [source, carets] <:+: linesOf (complaintBlock .plain c).toList ∧
      linesOf (complaintBlock .plain c).toList <:+: linesOf (render .plain r).toList ∧
      (resolve text span).firstLineText.toList <:+ source ∧
      AlignedAt ((toString (resolve text span).firstLine).length - 6) source carets (underlined covered) ∧
      ((resolve text span).firstLine < 1000000 → AlignedAt 0 source carets (underlined covered)) := by
  have hmem := h.firstLine_eq_lastLine_iff.1 hone
  have hresolve := h.resolve_single hmem
  have hnewline := newline_not_mem_lineNumbered before (covered ++ after)
  rw [h.text_eq_append] at hnewline
  have hblank : '^' ∉ (gutter .plain "").toList ++ [' '] := by simp
  have haligned : AlignedAt ((toString (before.count '\n' + 1)).length - 6)
      (lineRow .plain (lineNumbered text (before.count '\n' + 1))).toList
      ((gutter .plain "").toList ++ [' '] ++
        (caretIndent (lastPiece before) ++ List.replicate (max 1 (underlined covered).length) '^'))
      (underlined covered) := by
    rw [toList_lineRow_plain]
    refine alignedAt_of_underlines (underlines_of_isPrefix (h.prefix_line hmem)) hne hblank ?_
    simp only [toList_gutter_plain, List.length_append, List.length_replicate, String.length_toList, lineNumbered,
      List.length_singleton, String.length_empty]
    omega
  refine ⟨_, _, infix_linesOf_complaintBlock (by rw [hc, hresolve]) (by rw [hc, hresolve]) hnewline ?_,
    infix_linesOf_render .plain hr, ?_, ?_, ?_⟩
  · rw [String.toList_ofList]
    exact newline_not_mem_carets _ _
  · rw [hresolve, toList_lineRow_plain]
    exact List.suffix_append _ _
  · rw [hresolve, String.toList_ofList]
    exact haligned
  · rw [hresolve, String.toList_ofList]
    intro hlt
    have hdigits : (toString (before.count '\n' + 1)).length ≤ 6 := (Nat.length_repr_le_iff (by decide)).2 hlt
    rwa [Nat.sub_eq_zero_of_le hdigits] at haligned

/-- A match that starts inside a character behind a tab and goes up to the end of its line. -/
def accented : Complaint where
  rule := "spacing"
  severity := .warning
  path := "a.py"
  span := ⟨5, 10⟩
  message := "no blanks around ="
  help := some "add them"
  location := resolve "ok\n\té=1\r\nend".toList ⟨5, 10⟩

theorem accented_aligned : ∃ before covered after, accented.span.Cuts "ok\n\té=1\r\nend".toList before covered after ∧
    underlined covered = "é=1".toList ∧
    ∃ source carets, [source, carets] <:+: linesOf (complaintBlock .plain accented).toList ∧
      linesOf (complaintBlock .plain accented).toList <:+:
        linesOf (render .plain (.aggregate [accented])).toList ∧
      accented.location.firstLineText.toList <:+ source ∧
      AlignedAt ((toString accented.location.firstLine).length - 6) source carets (underlined covered) ∧
      (accented.location.firstLine < 1000000 → AlignedAt 0 source carets (underlined covered)) := by
  have hcuts : accented.span.Cuts "ok\n\té=1\r\nend".toList "ok\n\t".toList "é=1\r\n".toList "end".toList :=
    Span.cuts_of_splitBytes (by decide +kernel) (by decide +kernel)
  have hunderlined : underlined "é=1\r\n".toList = "é=1".toList := by decide +kernel
  refine ⟨_, _, _, hcuts, hunderlined, render_aligned hcuts (by decide +kernel) ?_ accented rfl _ ?_⟩
  · rw [hunderlined]
    decide +kernel
  · simp [ScanResult.aggregate]

/-! ## Long line numbers -/

theorem byteLength_replicate_newline (n : Nat) : byteLength (List.replicate n '\n') = n := by
  induction n with
  | zero => rfl
  | succ n ih =>
    rw [List.replicate_succ, byteLength_cons, ih, Nat.add_comm]
    rfl

theorem cuts_after_newlines (n : Nat) :
    Span.Cuts ⟨n, n + 1⟩ (List.replicate n '\n' ++ ['x']) (List.replicate n '\n') ['x'] [] := by
  refine Span.cuts_of_splitBytes ?_ ?_
  · have hlength : byteLength (List.replicate n '\n') ≤ n := (byteLength_replicate_newline n).le
    rw [splitBytes_append _ _ hlength, byteLength_replicate_newline, Nat.sub_self, splitBytes_zero, List.append_nil,
      List.append_nil]
  · rw [byteLength_replicate_newline, Nat.add_sub_cancel_left]
    rfl

theorem resolve_after_newlines (n : Nat) : resolve (List.replicate n '\n' ++ ['x']) ⟨n, n + 1⟩ =
    ⟨n + 1, n + 1, 1, [⟨n + 1, "x"⟩], some "^"⟩ := by
  have hcount : (List.replicate n '\n').count '\n' = n := List.count_replicate_self
  have hpiece : lastPiece (List.replicate n '\n') = [] := by
    cases n with
    | zero => rfl
    | succ n => rw [List.replicate_succ', lastPiece_append_newline]
  have hline := lineNumbered_eq (List.replicate n '\n') ['x']
  rw [hcount, hpiece] at hline
  rw [(cuts_after_newlines n).resolve_single (by decide), hcount, hpiece, hline]
  rfl

/-- A match on line 1000000. -/
def farAway : Complaint where
  rule := "x"
  severity := .warning
  path := "a"
  span := ⟨999999, 1000000⟩
  message := "x left in code"
  help := none
  location := ⟨1000000, 1000000, 1, [⟨1000000, "x"⟩], some "^"⟩

/-- The caret of a match on line 1000000 is not below the match, and no other two rows of its block are aligned. -/
theorem millionth_line_misaligned :
    farAway.location = resolve (List.replicate 999999 '\n' ++ ['x']) farAway.span ∧
    farAway.location.firstLine = farAway.location.lastLine ∧
    farAway.span.Cuts (List.replicate 999999 '\n' ++ ['x']) (List.replicate 999999 '\n') ['x'] [] ∧
    underlined ['x'] = ['x'] ∧
    ¬∃ source carets, [source, carets] <:+: linesOf (complaintBlock .plain farAway).toList ∧
      AlignedAt 0 source carets (underlined ['x']) := by
  refine ⟨(resolve_after_newlines 999999).symm, rfl, cuts_after_newlines 999999, by decide, ?_⟩
  have hlines : linesOf (complaintBlock .plain farAway).toList = ["WARNING - x: x left in code".toList,
      " --> a:1000000:1".toList, "1000000| x".toList, "      | ^".toList] := by decide +kernel
  rintro ⟨source, carets, ⟨head, tail, hrows⟩, hcount, hbelow⟩
  rw [hlines] at hrows
  -- only the last row has a caret in it
  rcases head with _ | ⟨_, _ | ⟨_, _ | ⟨_, head⟩⟩⟩
  · obtain ⟨-, rfl, -⟩ : _ ∧ carets = " --> a:1000000:1".toList ∧ _ := by simpa using hrows
    exact absurd hcount (by decide +kernel)
  · obtain ⟨-, -, rfl, -⟩ : _ ∧ _ ∧ carets = "1000000| x".toList ∧ _ := by simpa using hrows
    exact absurd hcount (by decide +kernel)
  · obtain ⟨-, -, rfl, rfl, -⟩ : _ ∧ _ ∧ source = "1000000| x".toList ∧ carets = "      | ^".toList ∧ _ := by
      simpa using hrows
    obtain ⟨x, hx, hsource⟩ := hbelow 8 (by decide +kernel)
    cases hx.symm.trans (show _ = some 'x' by decide +kernel)
    exact absurd hsource (by decide +kernel)
  · have hlength := congrArg List.length hrows
    simp only [List.length_append, List.length_cons, List.length_nil] at hlength
    omega

end Report

end PatternLint
