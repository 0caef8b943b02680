import Mathlib.Data.List.DropRight
import Mathlib.Order.Bounds.Basic
import PatternLint.Location
import PatternLint.Proofs.Text.Position
/-!
# Lines of a text

What it means to cut a text at bytes and at newlines. A span cuts a text in three at the last places between characters
that are not after its ends (`Span.Cuts`), and does so in one way. The lines of a text are its pieces between newlines
(`linesOf`); `getElem?_linesOf` says which line a place of the text stands on, and `lineOfByte` numbers the lines by the
newline bytes before a byte, wherever in a character that byte may be.
-/
namespace PatternLint

variable {text before covered after : List Char} {span : Span} {n : Nat}

/-! ## Cutting at a byte -/

theorem splitBytes_go_eq (n : Nat) (taken text : List Char) :
    splitBytes.go n taken text = (taken.reverse ++ (splitBytes n text).1, (splitBytes n text).2) := by
  unfold splitBytes
  induction text generalizing n taken with
  | nil => simp [splitBytes.go]
  | cons c text ih =>
    by_cases hc : c.utf8Size ≤ n
    · simp only [splitBytes.go, hc, if_true]
      rw [ih _ (c :: taken), ih _ [c]]
      simp
    · simp [splitBytes.go, hc]

theorem splitBytes_cons_of_le {c : Char} (h : c.utf8Size ≤ n) (text : List Char) : splitBytes n (c :: text) =
    (c :: (splitBytes (n - c.utf8Size) text).1, (splitBytes (n - c.utf8Size) text).2) := by
  rw [splitBytes, splitBytes.go, if_pos h, splitBytes_go_eq]
  rfl

theorem splitBytes_cons_of_lt {c : Char} (h : n < c.utf8Size) (text : List Char) :
    splitBytes n (c :: text) = ([], c :: text) := by
  rw [splitBytes, splitBytes.go, if_neg (Nat.not_le.2 h)]
  rfl

theorem splitBytes_zero (text : List Char) : splitBytes 0 text = ([], text) := by
  cases text with
  | nil => rfl
  | cons c text => exact splitBytes_cons_of_lt c.utf8Size_pos text

theorem splitBytes_append (pre post : List Char) (h : byteLength pre ≤ n) : splitBytes n (pre ++ post) =
    (pre ++ (splitBytes (n - byteLength pre) post).1, (splitBytes (n - byteLength pre) post).2) := by
  induction pre generalizing n with
  | nil => rfl
  | cons c pre ih =>
    rw [byteLength_cons] at h ⊢
    rw [List.cons_append, splitBytes_cons_of_le (by omega), ih (by omega), Nat.sub_sub]
    rfl

theorem append_splitBytes (n : Nat) (text : List Char) : (splitBytes n text).1 ++ (splitBytes n text).2 = text := by
  induction text generalizing n with
  | nil => rfl
  | cons c text ih =>
    by_cases hc : c.utf8Size ≤ n
    · rw [splitBytes_cons_of_le hc, List.cons_append, ih]
    · rw [splitBytes_cons_of_lt (Nat.not_le.1 hc), List.nil_append]

theorem append_of_splitBytes {a b : List Char} (h : splitBytes n text = (a, b)) : a ++ b = text := by
  simpa [h] using append_splitBytes n text

/-- A text can be cut at the places between its characters, and there only. -/
theorem cutBytes?_eq_some_iff {pre post : List Char} :
    cutBytes? n text = some (pre, post) ↔ pre ++ post = text ∧ byteLength pre = n := by
  constructor
  · intro h
    simp only [cutBytes?, Option.ite_none_right_eq_some, Option.some.injEq] at h
    obtain ⟨hlength, hsplit⟩ := h
    obtain ⟨rfl, rfl⟩ := Prod.mk.inj hsplit
    exact ⟨append_splitBytes n text, hlength⟩
  · rintro ⟨rfl, rfl⟩
    simp [cutBytes?, splitBytes_append pre post le_rfl, splitBytes_zero]

theorem byteLength_splitBytes_le (n : Nat) (text : List Char) : byteLength (splitBytes n text).1 ≤ n := by
  induction text generalizing n with
  | nil => exact Nat.zero_le n
  | cons c text ih =>
    by_cases hc : c.utf8Size ≤ n
    · have := ih (n - c.utf8Size)
      rw [splitBytes_cons_of_le hc, byteLength_cons]
      omega
    · rw [splitBytes_cons_of_lt (Nat.not_le.1 hc)]
      exact Nat.zero_le n

theorem byteLength_le_of_isPrefix {a b : List Char} (h : a <+: b) : byteLength a ≤ byteLength b := by
  obtain ⟨more, rfl⟩ := h
  rw [byteLength_append]
  omega

/-- Two beginnings of a text of equal length are one. -/
theorem eq_of_prefix_of_byteLength {a b : List Char} (ha : a <+: text) (hb : b <+: text)
    (h : byteLength a = byteLength b) : a = b := by
  rcases List.prefix_or_prefix_of_prefix ha hb with ⟨more, rfl⟩ | ⟨more, rfl⟩
  all_goals
    rw [byteLength_append] at h
    obtain rfl : more = [] := byteLength_eq_zero.1 (by omega)
    simp

/-- The places between characters of a text up to byte `n`. -/
def boundariesUpTo (text : List Char) (n : Nat) : Set Nat := {k | Boundary text k ∧ k ≤ min n (byteLength text)}

theorem isGreatest_splitBytes (n : Nat) (text : List Char) :
    IsGreatest (boundariesUpTo text n) (byteLength (splitBytes n text).1) := by
  have hprefix : (splitBytes n text).1 <+: text := ⟨_, append_splitBytes n text⟩
  refine ⟨⟨⟨_, hprefix, rfl⟩, le_min (byteLength_splitBytes_le n text) (byteLength_le_of_isPrefix hprefix)⟩, ?_⟩
  rintro k ⟨⟨pre, ⟨post, rfl⟩, rfl⟩, hk⟩
  rw [splitBytes_append pre post (hk.trans (min_le_left _ _))]
  exact byteLength_le_of_isPrefix (List.prefix_append _ _)

namespace Span

/-- The span cuts the text in three: its ends are moved back to the last places between characters, and an end that
comes before the start then is moved to it. -/
structure Cuts (span : Span) (text before covered after : List Char) : Prop where
  text_eq : before ++ covered ++ after = text
  start : IsGreatest (boundariesUpTo text span.start) (byteLength before)
  stop : ∃ k, IsGreatest (boundariesUpTo text span.stop) k ∧ byteLength (before ++ covered) = max k (byteLength before)

/-- A text that is cut at the start and then at the stop of a span is cut by the span. -/
theorem cuts_of_splitBytes (hstart : splitBytes span.start text = (before, covered ++ after))
    (hstop : splitBytes (span.stop - byteLength before) (covered ++ after) = (covered, after)) :
    span.Cuts text before covered after := by
  have htext : before ++ (covered ++ after) = text := append_of_splitBytes hstart
  refine ⟨by rw [List.append_assoc, htext], ?_, _, isGreatest_splitBytes span.stop text, ?_⟩
  · simpa [hstart] using isGreatest_splitBytes span.start text
  · by_cases hle : byteLength before ≤ span.stop
    · rw [← htext, splitBytes_append _ _ hle, hstop, max_eq_left (byteLength_le_of_isPrefix (List.prefix_append _ _))]
    · have hcovered : covered = [] := by
        rw [Nat.sub_eq_zero_of_le (Nat.le_of_not_le hle), splitBytes_zero] at hstop
        exact (Prod.mk.inj hstop).1.symm
      rw [hcovered, List.append_nil, max_eq_right]
      exact (byteLength_splitBytes_le _ _).trans (Nat.le_of_not_le hle)

theorem cuts_append (before covered after : List Char) :
    Span.Cuts ⟨byteLength before, byteLength before + byteLength covered⟩ (before ++ (covered ++ after))
      before covered after := by
  have hzero : ∀ a b : List Char, splitBytes (byteLength a) (a ++ b) = (a, b) := by
    intro a b
    rw [splitBytes_append a b le_rfl, Nat.sub_self, splitBytes_zero, List.append_nil]
  refine cuts_of_splitBytes (hzero before (covered ++ after)) ?_
  rw [Nat.add_sub_cancel_left]
  exact hzero covered after

theorem exists_splitBytes (span : Span) (text : List Char) : ∃ before covered after,
    splitBytes span.start text = (before, covered ++ after) ∧
      splitBytes (span.stop - byteLength before) (covered ++ after) = (covered, after) := by
  obtain ⟨before, rest, hstart⟩ : ∃ a b, splitBytes span.start text = (a, b) := ⟨_, _, rfl⟩
  obtain ⟨covered, after, hstop⟩ : ∃ a b, splitBytes (span.stop - byteLength before) rest = (a, b) := ⟨_, _, rfl⟩
  obtain rfl : covered ++ after = rest := append_of_splitBytes hstop
  exact ⟨before, covered, after, hstart, hstop⟩

theorem exists_cuts (span : Span) (text : List Char) : ∃ before covered after, span.Cuts text before covered after := by
  obtain ⟨before, covered, after, hstart, hstop⟩ := span.exists_splitBytes text
  exact ⟨before, covered, after, cuts_of_splitBytes hstart hstop⟩

namespace Cuts

/-- A span cuts a text in one way only. -/
theorem unique {before' covered' after' : List Char} (h : span.Cuts text before covered after)
    (h' : span.Cuts text before' covered' after') : before = before' ∧ covered = covered' ∧ after = after' := by
  have hassoc : before ++ (covered ++ after) = text := by rw [← List.append_assoc, h.text_eq]
  have hassoc' : before' ++ (covered' ++ after') = text := by rw [← List.append_assoc, h'.text_eq]
  obtain rfl : before = before' :=
    eq_of_prefix_of_byteLength ⟨_, hassoc⟩ ⟨_, hassoc'⟩ (h.start.unique h'.start)
  obtain ⟨k, hk, hlength⟩ := h.stop
  obtain ⟨k', hk', hlength'⟩ := h'.stop
  obtain rfl := hk.unique hk'
  obtain rfl : covered = covered' := List.append_cancel_left
    (eq_of_prefix_of_byteLength ⟨_, h.text_eq⟩ ⟨_, h'.text_eq⟩ (hlength.trans hlength'.symm))
  exact ⟨rfl, rfl, List.append_cancel_left (h.text_eq.trans h'.text_eq.symm)⟩

theorem splitBytes_eq (h : span.Cuts text before covered after) :
    splitBytes span.start text = (before, covered ++ after) ∧
      splitBytes (span.stop - byteLength before) (covered ++ after) = (covered, after) := by
  obtain ⟨before', covered', after', hstart, hstop⟩ := span.exists_splitBytes text
  obtain ⟨rfl, rfl, rfl⟩ := h.unique (cuts_of_splitBytes hstart hstop)
  exact ⟨hstart, hstop⟩

/-- A span that starts between two characters is cut there. -/
theorem byteLength_before (h : span.Cuts text before covered after) (hb : Boundary text span.start) :
    byteLength before = span.start := by
  refine le_antisymm (h.start.1.2.trans (min_le_left _ _)) (h.start.2 ⟨hb, le_min le_rfl ?_⟩)
  obtain ⟨pre, hpre, hlength⟩ := hb
  exact hlength ▸ byteLength_le_of_isPrefix hpre

end Cuts

end Span

/-! ## Cutting at newlines -/

/-- The pieces of a text between its newlines. -/
def linesOf (text : List Char) : List (List Char) := text.splitOn '\n'

theorem linesOf_append_newline (a b : List Char) : linesOf (a ++ '\n' :: b) = linesOf a ++ linesOf b :=
  List.splitOn_append_cons_self a b

theorem linesOf_of_not_mem (h : '\n' ∉ text) : linesOf text = [text] := List.splitOn_eq_singleton h

theorem length_linesOf (text : List Char) : (linesOf text).length = text.count '\n' + 1 := by
  induction text with
  | nil => rfl
  | cons c text ih =>
    rw [linesOf, List.splitOn_cons_eq_if_modifyHead]
    by_cases hc : c = '\n' <;> simp [hc, ← ih, linesOf]

theorem isDigit_of_mem_toString {n : Nat} {c : Char} (h : c ∈ (toString n).toList) : c.isDigit := by
  have hdigits : c ∈ Nat.toDigits 10 n := by simpa using h
  exact Nat.isDigit_of_mem_toDigits (by decide) (by decide) hdigits

/-- A text ends in `pre`, which begins behind its last newline or is all of it. -/
def OnLastLine (text pre : List Char) : Prop := '\n' ∉ pre ∧ (pre = text ∨ '\n' :: pre <:+ text)

theorem newline_not_mem_lastPiece (text : List Char) : '\n' ∉ lastPiece text := by
  intro h
  rw [lastPiece, List.mem_reverse] at h
  simpa using List.mem_takeWhile_imp h

theorem newline_not_mem_firstPiece (text : List Char) : '\n' ∉ firstPiece text := by
  intro h
  simpa using List.mem_takeWhile_imp h

theorem firstPiece_append_of_not_mem (h : '\n' ∉ before) (after : List Char) :
    firstPiece (before ++ after) = before ++ firstPiece after := by
  refine List.takeWhile_append_of_pos fun c hc => ?_
  simpa using ne_of_mem_of_not_mem hc h

theorem firstPiece_newline (after : List Char) : firstPiece ('\n' :: after) = [] := by simp [firstPiece]

theorem lastPiece_eq_firstPiece (text : List Char) : lastPiece text = (firstPiece text.reverse).reverse := rfl

theorem lastPiece_append_of_not_mem (h : '\n' ∉ after) (before : List Char) :
    lastPiece (before ++ after) = lastPiece before ++ after := by
  rw [lastPiece_eq_firstPiece, List.reverse_append, firstPiece_append_of_not_mem (by simpa using h)]
  simp [lastPiece_eq_firstPiece]

theorem lastPiece_append_newline (before : List Char) : lastPiece (before ++ ['\n']) = [] := by
  rw [lastPiece_eq_firstPiece, List.reverse_append, List.reverse_singleton, List.singleton_append, firstPiece_newline]
  rfl

/-- A text is its last piece, behind a newline unless that is all of it. -/
theorem lastPiece_cases (text : List Char) :
    text = lastPiece text ∨ ∃ head, text = head ++ '\n' :: lastPiece text := by
  induction text using List.reverseRecOn with
  | nil => exact .inl rfl
  | append_singleton text c ih =>
    by_cases hc : c = '\n'
    · subst hc
      exact .inr ⟨text, by rw [lastPiece_append_newline]⟩
    · rw [lastPiece_append_of_not_mem (by simpa using Ne.symm hc)]
      rcases ih with ih | ⟨head, ih⟩
      · exact .inl (by rw [← ih])
      · exact .inr ⟨head, by rw [← List.cons_append, ← List.append_assoc, ← ih]⟩

theorem firstPiece_cases (text : List Char) :
    text = firstPiece text ∨ ∃ tail, text = firstPiece text ++ '\n' :: tail := by
  rcases lastPiece_cases text.reverse with h | ⟨head, h⟩
  all_goals rw [lastPiece_eq_firstPiece, List.reverse_reverse] at h
  · exact .inl (List.reverse_injective h)
  · exact .inr ⟨head.reverse, List.reverse_injective (h.trans (by simp))⟩

theorem onLastLine_lastPiece (text : List Char) : OnLastLine text (lastPiece text) := by
  refine ⟨newline_not_mem_lastPiece text, ?_⟩
  rcases lastPiece_cases text with h | ⟨head, h⟩
  · exact .inl h.symm
  · exact .inr ⟨head, h.symm⟩

theorem lastPiece_append_of_mem (h : '\n' ∈ after) (before : List Char) :
    lastPiece (before ++ after) = lastPiece after := by
  have hbehind : ∀ head : List Char, lastPiece (head ++ '\n' :: lastPiece after) = lastPiece after := by
    intro head
    rw [List.append_cons, lastPiece_append_of_not_mem (newline_not_mem_lastPiece after), lastPiece_append_newline,
      List.nil_append]
  rcases lastPiece_cases after with hall | ⟨head, hhead⟩
  · exact absurd (hall ▸ h) (newline_not_mem_lastPiece after)
  · calc lastPiece (before ++ after) = lastPiece ((before ++ head) ++ '\n' :: lastPiece after) := by
          rw [List.append_assoc, ← hhead]
      _ = lastPiece after := hbehind _

/-- The line of a place in a text: as many lines come before it as newlines, and it goes from the last newline before
the place to the next one. -/
theorem getElem?_linesOf (before rest : List Char) :
    (linesOf (before ++ rest))[before.count '\n']? = some (lastPiece before ++ firstPiece rest) := by
  have hline : '\n' ∉ lastPiece before ++ firstPiece rest := by
    simp [newline_not_mem_lastPiece, newline_not_mem_firstPiece]
  -- the lines from the one of the place on
  have hfrom : (linesOf (lastPiece before ++ rest))[0]? = some (lastPiece before ++ firstPiece rest) := by
    rcases firstPiece_cases rest with hall | ⟨tail, htail⟩
    · conv_lhs => rw [hall]
      rw [linesOf_of_not_mem hline]
      rfl
    · conv_lhs => rw [htail]
      rw [← List.append_assoc, linesOf_append_newline, linesOf_of_not_mem hline]
      rfl
  rcases lastPiece_cases before with hall | ⟨head, hhead⟩
  · rw [← hall] at hfrom
    rw [List.count_eq_zero_of_not_mem (hall ▸ newline_not_mem_lastPiece before), hfrom, ← hall]
  · have hcount : before.count '\n' = (linesOf head).length := by
      rw [length_linesOf, hhead]
      simp [List.count_eq_zero_of_not_mem (newline_not_mem_lastPiece before)]
    conv_lhs => rw [hcount, hhead, List.append_assoc, List.cons_append, linesOf_append_newline]
    rw [List.getElem?_append_right le_rfl, Nat.sub_self, hfrom]

/-! ## Newlines among the bytes -/

/-- The bytes of a text in UTF-8. -/
def bytesOf (text : List Char) : List UInt8 := text.flatMap String.utf8EncodeChar

/-- The number of the line that a byte of a text belongs to. A newline belongs to the line that it ends. -/
def lineOfByte (text : List Char) (n : Nat) : Nat := ((bytesOf text).take n).count 10 + 1

theorem bytesOf_append (a b : List Char) : bytesOf (a ++ b) = bytesOf a ++ bytesOf b := List.flatMap_append

theorem bytesOf_cons (c : Char) (text : List Char) : bytesOf (c :: text) = String.utf8EncodeChar c ++ bytesOf text :=
  List.flatMap_cons

theorem length_bytesOf (text : List Char) : (bytesOf text).length = byteLength text := by
  induction text with
  | nil => rfl
  | cons c text ih => simp [bytesOf_cons, ih]

/-- No other character has the byte of a newline in it. -/
theorem newline_not_mem_utf8EncodeChar {c : Char} (h : c ≠ '\n') : 10 ∉ String.utf8EncodeChar c := by
  have hval : c.val.toNat ≠ 10 := fun hc => h (Char.ext (UInt32.toNat_inj.1 hc))
  have hbyte : ∀ k, k % 256 ≠ 10 → (10 : UInt8) ≠ UInt8.ofNat k := by
    intro k hk heq
    exact hk (by simpa using (congrArg UInt8.toNat heq).symm)
  unfold String.utf8EncodeChar
  simp only
  split
  · rw [List.mem_singleton]
    exact hbyte _ (by omega)
  · split
    · simp only [List.mem_cons, List.not_mem_nil, or_false, not_or]
      exact ⟨hbyte _ (by omega), hbyte _ (by omega)⟩
    · split
      · simp only [List.mem_cons, List.not_mem_nil, or_false, not_or]
        exact ⟨hbyte _ (by omega), hbyte _ (by omega), hbyte _ (by omega)⟩
      · simp only [List.mem_cons, List.not_mem_nil, or_false, not_or]
        exact ⟨hbyte _ (by omega), hbyte _ (by omega), hbyte _ (by omega), hbyte _ (by omega)⟩

theorem count_bytesOf (text : List Char) : (bytesOf text).count 10 = text.count '\n' := by
  induction text with
  | nil => rfl
  | cons c text ih =>
    rw [bytesOf_cons, List.count_append, ih]
    by_cases hc : c = '\n'
    · subst hc
      rw [List.count_cons_self, Nat.add_comm]
      rfl
    · rw [List.count_eq_zero_of_not_mem (newline_not_mem_utf8EncodeChar hc), List.count_cons_of_ne hc, Nat.zero_add]

/-- The line of the byte at a place between characters. -/
theorem lineOfByte_byteLength (before rest : List Char) :
    lineOfByte (before ++ rest) (byteLength before) = before.count '\n' + 1 := by
  rw [lineOfByte, bytesOf_append, ← length_bytesOf, List.take_left, count_bytesOf]

/-- The line of the last byte of a character. -/
theorem lineOfByte_pred (before rest : List Char) (c : Char) :
    lineOfByte (before ++ [c] ++ rest) (byteLength (before ++ [c]) - 1) = before.count '\n' + 1 := by
  have hlength : byteLength (before ++ [c]) - 1 = (bytesOf before).length + (c.utf8Size - 1) := by
    have := c.utf8Size_pos
    rw [byteLength_append, length_bytesOf, byteLength_cons, byteLength_nil]
    omega
  have hlast : ((String.utf8EncodeChar c).take (c.utf8Size - 1)).count 10 = 0 := by
    by_cases hc : c = '\n'
    · subst hc
      rfl
    · exact List.count_eq_zero_of_not_mem fun h => newline_not_mem_utf8EncodeChar hc (List.mem_of_mem_take h)
  rw [lineOfByte, List.append_assoc, bytesOf_append, List.singleton_append, bytesOf_cons, hlength,
    List.take_length_add_append, List.take_append_of_le_length (by simp), List.count_append, hlast, count_bytesOf,
    Nat.add_zero]

end PatternLint
