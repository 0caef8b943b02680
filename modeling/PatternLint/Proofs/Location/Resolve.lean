import PatternLint.Proofs.Text.Lines
/-!
# What a location says of a text

A location is found by searching around the ends of a span: back to a newline, on to the next one, through the covered
text. `Span.Cuts.resolve_single` and `Span.Cuts.resolve_multi` say what that comes to, in terms of the three parts that
the span cuts the text in. Main statements: `resolve_describes`, that the numbers and the lines are those of the text
split at its newlines, for every span whatever; and `resolve_underlines`, that carets stand below what is covered.
-/
namespace PatternLint

variable {text before covered after : List Char} {span : Span}

/-! ## A text without its last character -/

section DropLastIf

variable {c x : Char} {xs ys : List Char}

theorem dropLastIf_concat (c : Char) (xs : List Char) : dropLastIf c (xs ++ [c]) = xs := by simp [dropLastIf]

theorem dropLastIf_concat_of_ne (h : x ≠ c) (xs : List Char) : dropLastIf c (xs ++ [x]) = xs ++ [x] := by
  simp [dropLastIf, h]

theorem dropLastIf_isPrefix (c : Char) (xs : List Char) : dropLastIf c xs <+: xs := by
  unfold dropLastIf
  split
  · exact List.dropLast_prefix xs
  · exact List.prefix_rfl

/-- What does not end in the character is kept. -/
theorem isPrefix_dropLastIf (h : xs <+: ys) (hlast : xs.getLast? ≠ some c) : xs <+: dropLastIf c ys := by
  rcases List.eq_nil_or_concat' ys with rfl | ⟨ys, y, rfl⟩
  · exact h
  · by_cases hy : y = c
    · subst hy
      rw [dropLastIf_concat]
      rcases List.prefix_concat_iff.1 h with rfl | h
      · simp at hlast
      · exact h
    · rw [dropLastIf_concat_of_ne hy]
      exact h

/-- A newline at the end of a text ends a line of it and begins none. -/
theorem count_dropLastIf_concat (xs : List Char) (x : Char) :
    (dropLastIf '\n' (xs ++ [x])).count '\n' = xs.count '\n' := by
  by_cases hx : x = '\n'
  · rw [hx, dropLastIf_concat]
  · rw [dropLastIf_concat_of_ne hx, List.count_append, List.count_singleton]
    simp [hx]

end DropLastIf

/-! ## The two forms of a location -/

/-- A line of a text with its number, and without one carriage return if it ends in that. -/
def lineNumbered (text : List Char) (k : Nat) : SourceLine :=
  let line := (linesOf text).getD (k - 1) []
  ⟨k, String.ofList (if line.getLast? = some '\r' then line.dropLast else line)⟩

theorem lineNumbered_eq (before rest : List Char) : lineNumbered (before ++ rest) (before.count '\n' + 1) =
    ⟨before.count '\n' + 1, shownLine (lastPiece before ++ firstPiece rest)⟩ := by
  rw [lineNumbered, Nat.add_sub_cancel, List.getD_eq_getElem?_getD, getElem?_linesOf]
  rfl

/-- What carets stand below: the covered text without a newline at its end, and without the carriage returns there. -/
def underlined (covered : List Char) : List Char := (dropLastIf '\n' covered).rdropWhile (· = '\r')

theorem caretWidth_dropLastIf (covered : List Char) :
    caretWidth (dropLastIf '\n' covered) = max 1 (underlined covered).length := by
  rw [caretWidth, underlined, List.rdropWhile, List.length_reverse, Nat.max_comm]

namespace Span.Cuts

variable (h : span.Cuts text before covered after)

include h

theorem text_eq_append : before ++ (covered ++ after) = text := by rw [← List.append_assoc, h.text_eq]

/-- A span within one line, or up to its end. -/
theorem resolve_single (hone : '\n' ∉ dropLastIf '\n' covered) : resolve text span =
    { firstLine := before.count '\n' + 1
      lastLine := before.count '\n' + 1
      column := (lastPiece before).length + 1
      lines := [lineNumbered text (before.count '\n' + 1)]
      caret := some (String.ofList
        (caretIndent (lastPiece before) ++ List.replicate (max 1 (underlined covered).length) '^')) } := by
  obtain ⟨hstart, hstop⟩ := h.splitBytes_eq
  have hfirst := lineNumbered_eq before (covered ++ after)
  rw [h.text_eq_append] at hfirst
  simp only [resolve, hstart, hstop, List.count_eq_zero_of_not_mem hone, Nat.add_zero, if_true, caretWidth_dropLastIf,
    hfirst]

/-- A span that goes on behind a newline. -/
theorem resolve_multi (hmany : '\n' ∈ dropLastIf '\n' covered) : resolve text span =
    { firstLine := before.count '\n' + 1
      lastLine := before.count '\n' + 1 + (dropLastIf '\n' covered).count '\n'
      column := (lastPiece before).length + 1
      lines := [lineNumbered text (before.count '\n' + 1),
        lineNumbered text (before.count '\n' + 1 + (dropLastIf '\n' covered).count '\n')]
      caret := none } := by
  obtain ⟨hstart, hstop⟩ := h.splitBytes_eq
  have hfirst := lineNumbered_eq before (covered ++ after)
  rw [h.text_eq_append] at hfirst
  -- the last line is that of the place behind the covered text
  obtain ⟨more, hmore⟩ := (dropLastIf_isPrefix '\n' covered).trans (List.prefix_append covered after)
  have hdrop : (covered ++ after).drop (dropLastIf '\n' covered).length = more := by rw [← hmore, List.drop_left]
  have hlast := lineNumbered_eq (before ++ dropLastIf '\n' covered) more
  rw [List.append_assoc, hmore, h.text_eq_append, lastPiece_append_of_mem hmany, List.count_append,
    Nat.add_right_comm] at hlast
  have hne : before.count '\n' + 1 + (dropLastIf '\n' covered).count '\n' ≠ before.count '\n' + 1 := by
    have := List.count_pos_iff.2 hmany
    omega
  simp only [resolve, hstart, hstop, if_neg hne, hdrop, hfirst, hlast]

theorem firstLine_eq : (resolve text span).firstLine = before.count '\n' + 1 := by
  by_cases hmem : '\n' ∈ dropLastIf '\n' covered
  · rw [h.resolve_multi hmem]
  · rw [h.resolve_single hmem]

theorem column_eq : (resolve text span).column = (lastPiece before).length + 1 := by
  by_cases hmem : '\n' ∈ dropLastIf '\n' covered
  · rw [h.resolve_multi hmem]
  · rw [h.resolve_single hmem]

theorem lastLine_eq : (resolve text span).lastLine =
    before.count '\n' + 1 + (dropLastIf '\n' covered).count '\n' := by
  by_cases hmem : '\n' ∈ dropLastIf '\n' covered
  · rw [h.resolve_multi hmem]
  · rw [h.resolve_single hmem, List.count_eq_zero_of_not_mem hmem]

theorem firstLine_eq_lastLine_iff :
    (resolve text span).firstLine = (resolve text span).lastLine ↔ '\n' ∉ dropLastIf '\n' covered := by
  rw [h.firstLine_eq, h.lastLine_eq, ← List.count_eq_zero]
  omega

/-! ## Lines -/

/-- The last line is that of the last byte that is covered. -/
theorem lastLine_eq_lineOfByte : (resolve text span).lastLine =
    if byteLength before = byteLength (before ++ covered) then (resolve text span).firstLine
    else lineOfByte text (byteLength (before ++ covered) - 1) := by
  rw [h.lastLine_eq, h.firstLine_eq]
  rcases List.eq_nil_or_concat' covered with rfl | ⟨covered, x, rfl⟩
  · rw [List.append_nil, if_pos rfl]
    rfl
  · have hne : byteLength before ≠ byteLength (before ++ (covered ++ [x])) := by
      have := x.utf8Size_pos
      simp only [byteLength_append, byteLength_cons, byteLength_nil]
      omega
    rw [if_neg hne, ← h.text_eq, count_dropLastIf_concat, ← List.append_assoc before, lineOfByte_pred,
      List.count_append, Nat.add_right_comm]

theorem lastLine_le : (resolve text span).lastLine ≤ (linesOf text).length := by
  have hcovered : (dropLastIf '\n' covered).count '\n' ≤ covered.count '\n' :=
    (dropLastIf_isPrefix '\n' covered).sublist.count_le _
  rw [h.lastLine_eq, length_linesOf, ← h.text_eq, List.count_append, List.count_append]
  omega

end Span.Cuts

/-- What a location has to say of the part of a text from byte `a` to byte `b`. -/
structure Location.Describes (l : Location) (text : List Char) (a b : Nat) : Prop where
  firstLine : l.firstLine = lineOfByte text a
  column : ∃ before pre, before <+: text ∧ byteLength before = a ∧ OnLastLine before pre ∧ l.column = pre.length + 1
  lastLine : l.lastLine = if a = b then l.firstLine else lineOfByte text (b - 1)
  inOrder : 1 ≤ l.firstLine ∧ l.firstLine ≤ l.lastLine ∧ l.lastLine ≤ (linesOf text).length
  lines : l.lines = if l.firstLine = l.lastLine then [lineNumbered text l.firstLine]
    else [lineNumbered text l.firstLine, lineNumbered text l.lastLine]
  caret : l.caret.isSome ↔ l.firstLine = l.lastLine

/-- Every span has a location, wherever its ends are, and the location agrees with the text split at its newlines. -/
theorem resolve_describes (text : List Char) (span : Span) : ∃ a k, IsGreatest (boundariesUpTo text span.start) a ∧
    IsGreatest (boundariesUpTo text span.stop) k ∧ (resolve text span).Describes text a (max k a) := by
  obtain ⟨before, covered, after, h⟩ := span.exists_cuts text
  obtain ⟨k, hk, hstop⟩ := h.stop
  refine ⟨byteLength before, k, h.start, hk, ?_⟩
  rw [← hstop]
  exact {
    firstLine := by rw [h.firstLine_eq, ← h.text_eq_append, lineOfByte_byteLength]
    column := ⟨before, lastPiece before, ⟨_, h.text_eq_append⟩, rfl, onLastLine_lastPiece before, h.column_eq⟩
    lastLine := h.lastLine_eq_lineOfByte
    inOrder := ⟨by rw [h.firstLine_eq]; omega, by rw [h.firstLine_eq, h.lastLine_eq]; omega, h.lastLine_le⟩
    lines := by
      by_cases hmem : '\n' ∈ dropLastIf '\n' covered
      · rw [if_neg fun heq => h.firstLine_eq_lastLine_iff.1 heq hmem, h.resolve_multi hmem]
      · rw [if_pos (h.firstLine_eq_lastLine_iff.2 hmem), h.resolve_single hmem]
    caret := by
      rw [h.firstLine_eq_lastLine_iff]
      by_cases hmem : '\n' ∈ dropLastIf '\n' covered
      · simp [h.resolve_multi hmem, hmem]
      · simp [h.resolve_single hmem, hmem] }

/-! ## Carets -/

theorem underlined_isPrefix (covered : List Char) : underlined covered <+: dropLastIf '\n' covered :=
  List.rdropWhile_prefix _ _

theorem getLast?_underlined (h : underlined covered ≠ []) : (underlined covered).getLast? ≠ some '\r' := by
  have hlast := List.rdropWhile_last_not _ (dropLastIf '\n' covered) h
  rw [List.getLast?_eq_some_getLast h]
  exact fun heq => hlast (decide_eq_true (Option.some.inj heq))

theorem mem_caretIndent {pre : List Char} {x : Char} (h : x ∈ caretIndent pre) : x = '\t' ∨ x = ' ' := by
  obtain ⟨y, -, rfl⟩ := List.mem_map.1 h
  split
  · exact .inl rfl
  · exact .inr rfl

theorem caret_not_mem_caretIndent (pre : List Char) : '^' ∉ caretIndent pre := fun h =>
  absurd (mem_caretIndent h) (by decide)

/-- Where the carets of a row stand. -/
theorem getElem?_carets {blank : List Char} (h : '^' ∉ blank) (w i : Nat) :
    (blank ++ List.replicate w '^')[i]? = some '^' ↔ blank.length ≤ i ∧ i < blank.length + w := by
  by_cases hi : i < blank.length
  · have hne : blank[i] ≠ '^' := fun heq => h (heq ▸ List.getElem_mem hi)
    rw [List.getElem?_append_left hi, List.getElem?_eq_getElem hi]
    simp [hne, Nat.not_le.2 hi]
  · rw [List.getElem?_append_right (Nat.not_lt.1 hi), List.getElem?_replicate]
    simp only [ite_eq_left_iff, reduceCtorEq, imp_false, not_not]
    omega

/-- The line of a span within one line begins with what stands before the span and the underlined text. -/
theorem Span.Cuts.prefix_line (h : span.Cuts text before covered after) (hone : '\n' ∉ dropLastIf '\n' covered)
    (hne : underlined covered ≠ []) :
    lastPiece before ++ underlined covered <+: (lineNumbered text (before.count '\n' + 1)).text.toList := by
  obtain ⟨more, hmore⟩ := ((underlined_isPrefix covered).trans (dropLastIf_isPrefix '\n' covered)).trans
    (List.prefix_append covered after)
  have hpiece : firstPiece (covered ++ after) = underlined covered ++ firstPiece more := by
    rw [← hmore, firstPiece_append_of_not_mem fun hmem => hone ((underlined_isPrefix covered).subset hmem)]
  rw [← h.text_eq_append, lineNumbered_eq, hpiece, shownLine, String.toList_ofList]
  -- one carriage return at the end of the line is not shown, and the underlined text does not end in one
  refine isPrefix_dropLastIf ?_ ?_
  · rw [← List.append_assoc]
    exact List.prefix_append _ _
  · rw [List.getLast?_append_of_ne_nil _ hne]
    exact getLast?_underlined hne

/-- A row of carets below a line that has `pre` and then `matched` on it. -/
structure Underlines (caret shown pre matched : List Char) : Prop where
  caret_eq : caret = (pre.map fun x => if x = '\t' then '\t' else ' ') ++ List.replicate (max 1 matched.length) '^'
  prefix_shown : matched ≠ [] → pre ++ matched <+: shown
  below : matched ≠ [] → ∀ i, caret[i]? = some '^' →
    pre.length ≤ i ∧ ∃ x, matched[i - pre.length]? = some x ∧ shown[i]? = some x

theorem underlines_of_isPrefix {shown pre matched : List Char} (h : matched ≠ [] → pre ++ matched <+: shown) :
    Underlines (caretIndent pre ++ List.replicate (max 1 matched.length) '^') shown pre matched := by
  refine ⟨rfl, h, fun hne i hi => ?_⟩
  obtain ⟨hle, hlt⟩ := (getElem?_carets (caret_not_mem_caretIndent pre) _ i).1 hi
  rw [caretIndent, List.length_map] at hle hlt
  obtain ⟨more, rfl⟩ := h hne
  have hpos := List.length_pos_iff.2 hne
  have hmatched : i - pre.length < matched.length := by omega
  refine ⟨hle, matched[i - pre.length], List.getElem?_eq_getElem hmatched, ?_⟩
  rw [List.append_assoc, List.getElem?_append_right hle, List.getElem?_append_left hmatched,
    List.getElem?_eq_getElem hmatched]

/-- A span within one line is underlined: carets begin below the first covered character, there are as many as
characters are covered up to the end of the line but one at least, and each stands below the character that it is for. -/
theorem resolve_underlines (text : List Char) (span : Span)
    (hone : (resolve text span).firstLine = (resolve text span).lastLine) :
    ∃ before covered after pre line caret, span.Cuts text before covered after ∧ OnLastLine before pre ∧
      (resolve text span).lines = [line] ∧ (resolve text span).caret = some caret ∧
      caret.length = (resolve text span).column - 1 + max 1 (underlined covered).length ∧
      Underlines caret.toList line.text.toList pre (underlined covered) := by
  obtain ⟨before, covered, after, h⟩ := span.exists_cuts text
  have hmem := h.firstLine_eq_lastLine_iff.1 hone
  refine ⟨before, covered, after, lastPiece before, lineNumbered text (before.count '\n' + 1), String.ofList
    (caretIndent (lastPiece before) ++ List.replicate (max 1 (underlined covered).length) '^'), h,
    onLastLine_lastPiece before, ?_⟩
  rw [h.resolve_single hmem]
  refine ⟨rfl, rfl, ?_, ?_⟩
  · simp [caretIndent, String.length_ofList]
  · rw [String.toList_ofList]
    exact underlines_of_isPrefix (h.prefix_line hmem)

/-- A span that starts inside a character behind a tab and goes up to the end of its line, where a carriage return
stands before the newline. -/
theorem accent_underlines : ∃ text : List Char, ∃ span : Span, text = "ok\n\té=1\r\nend".toList ∧ span = ⟨5, 10⟩ ∧
    (resolve text span).firstLine = (resolve text span).lastLine ∧
    (resolve text span).lines = [⟨2, "\té=1"⟩] ∧ (resolve text span).caret = some "\t^^^" ∧
    ∃ before covered after pre line caret, span.Cuts text before covered after ∧ OnLastLine before pre ∧
      (resolve text span).lines = [line] ∧ (resolve text span).caret = some caret ∧
      caret.length = (resolve text span).column - 1 + max 1 (underlined covered).length ∧
      Underlines caret.toList line.text.toList pre (underlined covered) := by
  have h : resolve "ok\n\té=1\r\nend".toList ⟨5, 10⟩ = ⟨2, 2, 2, [⟨2, "\té=1"⟩], some "\t^^^"⟩ := by decide +kernel
  refine ⟨_, _, rfl, rfl, ?_, ?_, ?_, resolve_underlines _ _ ?_⟩ <;> rw [h]

end PatternLint
