import PatternLint.Proofs.Location.Resolve
import PatternLint.Proofs.Rule.Overrides
/-!
# Matches behind a comment marker

The hook `skipCommented` looks for its marker in what stands before a match on its line. It finds that part of the text
by itself, from the start of the match back to a newline, while a location is found in another way.
`Match.onLine_lineStart` says that both mean the same line, and `markedBefore_iff` what it is to find the marker there, in
terms of bytes of the whole text. Main statement: `build_skips_commented`, that the hook drops exactly the matches that
have the marker before them on their line, and changes nothing about the others.
-/
namespace PatternLint

variable {text before covered after marker : List Char} {span : Span} {n : Nat}

/-! ## Cut texts -/

theorem prefix_of_byteLength_le {a b : List Char} (ha : a <+: text) (hb : b <+: text)
    (h : byteLength a ≤ byteLength b) : a <+: b := by
  rcases List.prefix_or_prefix_of_prefix ha hb with hab | hba
  · exact hab
  · exact (eq_of_prefix_of_byteLength ha hb (h.antisymm (byteLength_le_of_isPrefix hba))) ▸ List.prefix_rfl

/-- What a span covers, in terms of what stands around it. -/
theorem slice?_eq_some_iff {i j : Nat} {mid : List Char} : (Span.mk i j).slice? text = some mid ↔
    ∃ pre post, pre ++ (mid ++ post) = text ∧ byteLength pre = i ∧ byteLength (pre ++ mid) = j := by
  constructor
  · intro h
    simp only [Span.slice?, Option.ite_none_right_eq_some] at h
    obtain ⟨hle, h⟩ := h
    obtain ⟨⟨pre, rest⟩, hpre, h⟩ := Option.bind_eq_some_iff.1 h
    obtain ⟨⟨mid', post⟩, hmid, hfst⟩ := Option.map_eq_some_iff.1 h
    obtain rfl : mid' = mid := hfst
    obtain ⟨rfl, rfl⟩ := cutBytes?_eq_some_iff.1 hpre
    obtain ⟨rfl, hlength⟩ := cutBytes?_eq_some_iff.1 hmid
    refine ⟨pre, post, rfl, rfl, ?_⟩
    rw [byteLength_append, hlength]
    exact Nat.add_sub_cancel' hle
  · rintro ⟨pre, post, rfl, rfl, rfl⟩
    have hpre : cutBytes? (byteLength pre) (pre ++ (mid ++ post)) = some (pre, mid ++ post) :=
      cutBytes?_eq_some_iff.2 ⟨rfl, rfl⟩
    have hmid : cutBytes? (byteLength mid) (mid ++ post) = some (mid, post) := cutBytes?_eq_some_iff.2 ⟨rfl, rfl⟩
    simp [Span.slice?, hpre, hmid]

/-! ## Markers -/

theorem occursIn_iff (part text : List Char) : occursIn part text ↔ part <:+: text := by
  induction text with
  | nil => simp [occursIn]
  | cons c text ih => rw [occursIn, Bool.or_eq_true, ih, List.isPrefixOf_iff_prefix, List.infix_cons_iff]

/-- The marker occurs in the text at some byte, ends at byte `n` or before it, and no newline stands between where it
begins and byte `n`. -/
def MarkedBefore (marker text : List Char) (n : Nat) : Prop :=
  ∃ i, (Span.mk i (i + byteLength marker)).slice? text = some marker ∧ i + byteLength marker ≤ n ∧
    ∃ between, (Span.mk i n).slice? text = some between ∧ '\n' ∉ between

theorem markedBefore_iff (marker before rest : List Char) :
    MarkedBefore marker (before ++ rest) (byteLength before) ↔ marker <:+: lastPiece before := by
  constructor
  · rintro ⟨i, hmarker, hle, between, hbetween, hline⟩
    obtain ⟨pre, post, htext, rfl, -⟩ := slice?_eq_some_iff.1 hmarker
    obtain ⟨pre', post', htext', hpre, hlength⟩ := slice?_eq_some_iff.1 hbetween
    obtain rfl : pre' = pre := eq_of_prefix_of_byteLength ⟨_, htext'⟩ ⟨_, htext⟩ hpre
    obtain rfl : pre' ++ between = before := by
      refine eq_of_prefix_of_byteLength ⟨post', ?_⟩ (List.prefix_append before rest) hlength
      rw [List.append_assoc, htext']
    -- both begin at the same place, and the marker ends first
    have hprefix : marker <+: between := by
      have hrest : marker ++ post = between ++ post' := List.append_cancel_left (htext.trans htext'.symm)
      refine prefix_of_byteLength_le (List.prefix_append marker post) ⟨post', hrest.symm⟩ ?_
      rw [byteLength_append] at hle
      omega
    rw [lastPiece_append_of_not_mem hline]
    exact hprefix.isInfix.trans (List.suffix_append _ _).isInfix
  · rintro ⟨a, b, hpiece⟩
    obtain ⟨head, hhead⟩ : lastPiece before <:+ before := by
      rcases lastPiece_cases before with hall | ⟨head, hhead⟩
      · exact ⟨[], hall.symm⟩
      · exact ⟨head ++ ['\n'], by rw [List.append_assoc]; exact hhead.symm⟩
    have hbefore : (head ++ a) ++ (marker ++ b) = before := by rw [← hhead, ← hpiece]; simp
    refine ⟨byteLength (head ++ a), slice?_eq_some_iff.2 ⟨head ++ a, b ++ rest, ?_, rfl, ?_⟩, ?_, marker ++ b,
      slice?_eq_some_iff.2 ⟨head ++ a, rest, ?_, rfl, ?_⟩, fun hmem => ?_⟩
    · rw [← hbefore]
      simp
    · rw [byteLength_append]
    · rw [← hbefore]
      simp only [byteLength_append]
      omega
    · rw [← hbefore]
      simp
    · rw [hbefore]
    · refine newline_not_mem_lastPiece before ?_
      rw [← hpiece, List.append_assoc]
      exact List.mem_append_right a hmem

/-! ## The line of a match -/

namespace Match

variable {m : Match}

theorem lineStart_eq (h : m.span.Cuts m.text before covered after) (hb : Boundary m.text m.span.start) :
    m.lineStart = lastPiece before := by
  have hcut : cutBytes? m.span.start m.text = some (before, covered ++ after) :=
    cutBytes?_eq_some_iff.2 ⟨h.text_eq_append, h.byteLength_before hb⟩
  simp [lineStart, hcut]

/-- What stands before a match on its line is the beginning of the first line of its location, up to the column. -/
theorem onLine_lineStart (hb : Boundary m.text m.span.start) : 1 ≤ m.location.firstLine ∧
    m.lineStart.length + 1 = m.location.column ∧
      ∃ rest, (linesOf m.text)[m.location.firstLine - 1]? = some (m.lineStart ++ rest) := by
  obtain ⟨before, covered, after, h⟩ := m.span.exists_cuts m.text
  have hline := getElem?_linesOf before (covered ++ after)
  rw [h.text_eq_append] at hline
  rw [location, h.firstLine_eq, h.column_eq, lineStart_eq h hb]
  exact ⟨by omega, rfl, _, hline⟩

/-- The complaint of a match passes the check of hooks, and has the severity that is set for the rule. -/
theorem passOn_complaint (hle : m.span.start ≤ m.span.stop) (hstop : m.span.stop ≤ byteLength m.text) :
    passOn m m.complaint = .ok m.complaint := by
  have hwithin : m.complaint.Within m.text := ⟨hle, hstop⟩
  refine passOn_eq_ok_iff.2 ⟨hwithin, rfl, fun s hset _ => ?_, fun _ => rfl⟩
  simp [complaint, RuleInfo.severity, hset]

theorem build_skipCommented (marker : String) (hle : m.span.start ≤ m.span.stop)
    (hstop : m.span.stop ≤ byteLength m.text) : m.build (some (skipCommented marker)) =
      .ok (if occursIn marker.toList m.lineStart then [] else [m.complaint]) := by
  have hbuild : m.build (some (skipCommented marker)) = (skipCommented marker m).bind (·.mapM (passOn m)) := rfl
  rw [hbuild, skipCommented]
  split
  · rfl
  · simp only [Except.bind, List.mapM_cons, passOn_complaint hle hstop, List.mapM_nil]
    rfl

end Match

namespace Rule

/-- A rule that skips what is commented out makes no complaint of a match that has the marker before it on its line, and
of any other match the one that it would make without the hook. What is searched for the marker is the beginning of the
first line of the match, up to its column. -/
theorem build_skips_commented (r : Rule) (marker path : String) (text : List Char) (span : Span)
    (hhook : r.hook = some (skipCommented marker)) (hstart : Boundary text span.start)
    (hle : span.start ≤ span.stop) (hstop : span.stop ≤ byteLength text) :
    (r.build path text span = .ok [] ↔ MarkedBefore marker.toList text span.start) ∧
    (¬MarkedBefore marker.toList text span.start →
      ∃ c, r.build path text span = .ok [c] ∧ { r with hook := none }.build path text span = .ok [c]) ∧
    1 ≤ (resolve text span).firstLine ∧
    (Match.mk r.info path text span).lineStart.length + 1 = (resolve text span).column ∧
    ∃ rest, (linesOf text)[(resolve text span).firstLine - 1]? =
      some ((Match.mk r.info path text span).lineStart ++ rest) := by
  let m : Match := ⟨r.info, path, text, span⟩
  have hbuild : r.build path text span = .ok (if occursIn marker.toList m.lineStart then [] else [m.complaint]) := by
    rw [build, hhook]
    exact m.build_skipCommented marker hle hstop
  have hmarked : occursIn marker.toList m.lineStart ↔ MarkedBefore marker.toList text span.start := by
    obtain ⟨before, covered, after, h⟩ := span.exists_cuts text
    rw [occursIn_iff, m.lineStart_eq h hstart, ← markedBefore_iff _ before (covered ++ after), h.text_eq_append,
      h.byteLength_before hstart]
  refine ⟨?_, fun hnot => ⟨m.complaint, ?_, rfl⟩, m.onLine_lineStart hstart⟩
  · rw [hbuild, ← hmarked]
    split <;> simp_all
  · rw [hbuild, if_neg (hmarked.not.2 hnot)]

/-- Looks for calls left in the code, unless they are commented out. -/
def leftoverCall : RuleDefinition where
  name := "dbg"
  description := "dbg! left in code"
  capture := some (.pattern "dbg!" {})
  severity := some .critical
  included := ["*.rs"]
  hook := some (skipCommented "//")

/-- Of two calls one stands behind a marker and an accent, the other on the line below. -/
theorem leftoverCall_skips_commented : ∃ r text, leftoverCall.check = .ok r ∧ r.hook = some (skipCommented "//") ∧
    text = "é// dbg!(x)\n".toList ++ "dbg!(y)\n".toList ∧ byteLength text = 21 ∧
    Boundary text 5 ∧ MarkedBefore "//".toList text 5 ∧ r.build "a.rs" text ⟨5, 9⟩ = .ok [] ∧
    Boundary text 13 ∧ ¬MarkedBefore "//".toList text 13 ∧ ∃ c, r.build "a.rs" text ⟨13, 17⟩ = .ok [c] := by
  have h : leftoverCall.check.toOption.map Rule.name = some "dbg" := by decide +kernel
  obtain ⟨r, hr, -⟩ := toOption_map_ok h
  have hhook : r.hook = some (skipCommented "//") := (RuleDefinition.check_makes hr).hook
  have hlength : byteLength ("é// dbg!(x)\n".toList ++ "dbg!(y)\n".toList) = 21 := by decide +kernel
  have hfirst : Boundary ("é// dbg!(x)\n".toList ++ "dbg!(y)\n".toList) 5 :=
    ⟨"é// ".toList, by decide +kernel, by decide +kernel⟩
  have hsecond : Boundary ("é// dbg!(x)\n".toList ++ "dbg!(y)\n".toList) 13 :=
    ⟨"é// dbg!(x)\n".toList, by decide +kernel, by decide +kernel⟩
  have hmarked : MarkedBefore "//".toList ("é// dbg!(x)\n".toList ++ "dbg!(y)\n".toList) 5 :=
    ⟨2, by decide +kernel, by decide +kernel, "// ".toList, by decide +kernel, by decide +kernel⟩
  have hunmarked : ¬MarkedBefore "//".toList ("é// dbg!(x)\n".toList ++ "dbg!(y)\n".toList) 13 := by
    intro hmarked
    have hinfix := (markedBefore_iff "//".toList "é// dbg!(x)\n".toList "dbg!(y)\n".toList).1 hmarked
    exact absurd hinfix (by decide +kernel)
  have hskip := build_skips_commented r "//" "a.rs" _ ⟨5, 9⟩ hhook hfirst (by decide) (by rw [hlength]; decide)
  have hkeep := build_skips_commented r "//" "a.rs" _ ⟨13, 17⟩ hhook hsecond (by decide) (by rw [hlength]; decide)
  obtain ⟨c, hc, -⟩ := hkeep.2.1 hunmarked
  exact ⟨r, _, hr, hhook, rfl, hlength, hfirst, hmarked, hskip.1.2 hmarked, hsecond, hunmarked, c, hc⟩

end Rule

end PatternLint
