import Mathlib.Data.List.Forall2
import PatternLint.Proofs.Text.Lines
import PatternLint.Report.Text
/-!
# Colours leave the text alone

Terminal codes are written around the parts of a report, and `unpaint` takes them out of a text again. A text `Shows`
another one if that is what is left of it, whatever follows; this goes through the layout of a report from its parts to
the whole. Main statement: `colored_shows_plain`, that a report with colours is the plain one once the codes are taken
out, as long as the strings of the result bring none of their own.
-/
namespace PatternLint

/-! ## Taking out codes -/

/-- The length of the terminal code that a text begins with: an escape, a bracket, digits and an `m`. It is zero if the
text begins with none. -/
def codeLength : List Char → Nat
  | '\x1b' :: '[' :: text =>
    let digits := text.takeWhile Char.isDigit
    if !digits.isEmpty && (text.drop digits.length).head? == some 'm' then digits.length + 3 else 0
  | _ => 0

/-- A text without its terminal codes, where `skip` characters belong to a code that began before. -/
def unpaintFrom (skip : Nat) : List Char → List Char
  | [] => []
  | c :: text =>
    match skip with
    | skip + 1 => unpaintFrom skip text
    | 0 =>
      match codeLength (c :: text) with
      | n + 1 => unpaintFrom n text
      | 0 => c :: unpaintFrom 0 text

/-- A text without its terminal codes. -/
def unpaint (text : List Char) : List Char := unpaintFrom 0 text

theorem toList_escapeCode (code : Nat) :
    (escapeCode code).toList = '\x1b' :: '[' :: (Nat.toDigits 10 code ++ ['m']) := by
  simp [escapeCode]
  rfl

theorem codeLength_escapeCode (code : Nat) (rest : List Char) :
    codeLength ((escapeCode code).toList ++ rest) = (escapeCode code).toList.length := by
  have hdigits : (Nat.toDigits 10 code ++ 'm' :: rest).takeWhile Char.isDigit = Nat.toDigits 10 code := by
    rw [List.takeWhile_append_of_pos fun c hc => Nat.isDigit_of_mem_toDigits (by decide) (by decide) hc]
    simp
  have hne : Nat.toDigits 10 code ≠ [] := Nat.toDigits_ne_nil
  rw [toList_escapeCode]
  simp [codeLength, hdigits, hne]

theorem codeLength_of_ne {c : Char} (h : c ≠ '\x1b') (text : List Char) : codeLength (c :: text) = 0 := by
  unfold codeLength
  split <;> simp_all

theorem unpaintFrom_skip (code rest : List Char) : unpaintFrom code.length (code ++ rest) = unpaint rest := by
  induction code with
  | nil => rfl
  | cons c code ih => exact ih

theorem unpaint_escapeCode (code : Nat) (rest : List Char) :
    unpaint ((escapeCode code).toList ++ rest) = unpaint rest := by
  have hlength := codeLength_escapeCode code rest
  have hskip := unpaintFrom_skip ('[' :: (Nat.toDigits 10 code ++ ['m'])) rest
  rw [toList_escapeCode, List.cons_append] at hlength ⊢
  rw [unpaint, unpaintFrom]
  simp only [hlength, List.length_cons]
  exact hskip

theorem unpaint_cons {c : Char} (h : c ≠ '\x1b') (text : List Char) : unpaint (c :: text) = c :: unpaint text := by
  rw [unpaint, unpaintFrom]
  simp only [codeLength_of_ne h]
  rfl

/-! ## Texts without codes -/

/-- The text has no character that begins a terminal code. -/
def CodeFree (s : String) : Prop := ∀ c ∈ s.toList, c ≠ '\x1b' ∧ c ≠ '\u009b'

instance (s : String) : Decidable (CodeFree s) := List.decidableBAll _ s.toList

theorem codeFree_append {s t : String} : CodeFree (s ++ t) ↔ CodeFree s ∧ CodeFree t := by
  simp only [CodeFree, String.toList_append, List.forall_mem_append]

theorem codeFree_toString (n : Nat) : CodeFree (toString n) := by
  intro c hc
  have hdigit := isDigit_of_mem_toString hc
  constructor <;> (rintro rfl; revert hdigit; decide)

theorem codeFree_alignRight {s : String} (h : CodeFree s) (width : Nat) : CodeFree (Report.alignRight width s) := by
  rw [Report.alignRight, codeFree_append]
  refine ⟨fun c hc => ?_, h⟩
  rw [String.toList_ofList] at hc
  rw [List.eq_of_mem_replicate hc]
  decide

/-- The strings of a complaint. -/
def Complaint.strings (c : Complaint) : List String :=
  [c.rule, c.path, c.message] ++ c.help.toList ++ c.location.lines.map (·.text) ++ c.location.caret.toList

/-- No string of the result has a character that begins a terminal code. -/
def ScanResult.CodeFree (r : ScanResult) : Prop := ∀ c ∈ r.complaints, ∀ s ∈ c.strings, PatternLint.CodeFree s

/-! ## What a painted text shows -/

/-- Without terminal codes the first text is the second one, whatever follows it, and the second one has no codes. -/
structure Shows (s t : String) : Prop where
  codeFree : CodeFree t
  unpaint_append : ∀ rest, unpaint (s.toList ++ rest) = t.toList ++ unpaint rest

namespace Shows

variable {s t s' t' : String}

theorem of_codeFree (h : CodeFree s) : Shows s s := by
  refine ⟨h, fun rest => ?_⟩
  unfold CodeFree at h
  generalize s.toList = cs at h
  induction cs with
  | nil => rfl
  | cons c cs ih =>
    rw [List.cons_append, unpaint_cons (h c List.mem_cons_self).1, ih fun d hd => h d (List.mem_cons_of_mem c hd)]
    rfl

theorem append (h : Shows s t) (h' : Shows s' t') : Shows (s ++ s') (t ++ t') := by
  refine ⟨codeFree_append.2 ⟨h.codeFree, h'.codeFree⟩, fun rest => ?_⟩
  simp only [String.toList_append, List.append_assoc, h.unpaint_append, h'.unpaint_append]

theorem paint (h : CodeFree s) (style : Style) : Shows (style.paint s) s := by
  have hcodes : ∀ rest, unpaint ((String.join (style.map escapeCode)).toList ++ rest) = unpaint rest := by
    intro rest
    induction style with
    | nil => rfl
    | cons code style ih =>
      simp only [List.map_cons, String.join_cons, String.toList_append, List.append_assoc, unpaint_escapeCode]
      exact ih
  unfold Style.paint
  split
  · exact of_codeFree h
  · refine ⟨h, fun rest => ?_⟩
    simp only [String.toList_append, List.append_assoc, hcodes, (of_codeFree h).unpaint_append, unpaint_escapeCode]

theorem intercalate {sep : String} (hsep : CodeFree sep) {rows rows' : List String} (h : List.Forall₂ Shows rows rows') :
    Shows (sep.intercalate rows) (sep.intercalate rows') := by
  induction h with
  | nil => exact of_codeFree (by simp [CodeFree])
  | @cons row row' rows rows' hrow hrows ih =>
    cases hrows with
    | nil => simpa using hrow
    | cons hnext hrest =>
      rw [String.intercalate_cons_cons, String.intercalate_cons_cons]
      exact (hrow.append (of_codeFree hsep)).append ih

end Shows

/-! ## Reports -/

namespace Report

variable (t : Theme)

theorem gutter_shows {label : String} (h : CodeFree label) : Shows (gutter t label) (gutter .plain label) := by
  have hfree : CodeFree (alignRight 6 label ++ "|") := codeFree_append.2 ⟨codeFree_alignRight h 6, by decide⟩
  exact .paint hfree t.gutter

theorem lineRow_shows {l : SourceLine} (h : CodeFree l.text) : Shows (lineRow t l) (lineRow .plain l) :=
  ((gutter_shows t (codeFree_toString l.number)).append (.of_codeFree (by decide))).append (.of_codeFree h)

theorem lineRows_shows {lines : List SourceLine} (h : ∀ l ∈ lines, CodeFree l.text) :
    List.Forall₂ Shows (lineRows t lines) (lineRows .plain lines) := by
  fun_induction lineRows t lines with
  | case1 => exact .nil
  | case2 l => exact .cons (lineRow_shows t (h l List.mem_cons_self)) .nil
  | case3 l m lines rows hgap ih =>
    rw [lineRows, if_pos hgap]
    refine .cons (lineRow_shows t (h l List.mem_cons_self)) (.cons (gutter_shows t (by decide)) ?_)
    exact ih fun k hk => h k (List.mem_cons_of_mem l hk)
  | case4 l m lines rows hgap ih =>
    rw [lineRows, if_neg hgap]
    exact .cons (lineRow_shows t (h l List.mem_cons_self)) (ih fun k hk => h k (List.mem_cons_of_mem l hk))

theorem severity_shows (severity : Severity) :
    Shows ((t.severity severity).paint severity.label) ((Theme.plain.severity severity).paint severity.label) := by
  cases severity <;> exact .paint (by decide) _

theorem complaintRows_shows {c : Complaint} (h : ∀ s ∈ c.strings, CodeFree s) :
    List.Forall₂ Shows (complaintRows t c) (complaintRows .plain c) := by
  have hrule : CodeFree c.rule := h _ (by simp [Complaint.strings])
  have hpath : CodeFree c.path := h _ (by simp [Complaint.strings])
  have hmessage : CodeFree c.message := h _ (by simp [Complaint.strings])
  have hplace : CodeFree s!"{c.path}:{c.location.firstLine}:{c.location.column}" := by
    show CodeFree (c.path ++ ":" ++ toString c.location.firstLine ++ ":" ++ toString c.location.column)
    simp only [codeFree_append, codeFree_toString, hpath, true_and, and_true]
    decide
  unfold complaintRows
  refine List.rel_append (List.rel_append (List.rel_append (.cons ?_ (.cons ?_ .nil)) ?_) ?_) ?_
  · have hhead := (severity_shows t c.severity).append (.of_codeFree (show CodeFree " - " by decide))
    exact ((hhead.append (.paint hrule t.rule)).append (.of_codeFree (by decide))).append (.of_codeFree hmessage)
  · exact Shows.append (.of_codeFree (by decide)) (.paint hplace t.path)
  · exact lineRows_shows t fun l hl => h _ (by simp [Complaint.strings]; grind)
  · cases hcaret : c.location.caret with
    | none => exact .nil
    | some caret =>
      have hfree : CodeFree caret := h _ (by simp [Complaint.strings, hcaret])
      refine .cons ?_ .nil
      exact ((gutter_shows t (by decide)).append (.of_codeFree (by decide))).append (.paint hfree t.caret)
  · cases hhelp : c.help with
    | none => exact .nil
    | some help =>
      have hfree : CodeFree help := h _ (by simp [Complaint.strings, hhelp])
      refine .cons ?_ .nil
      exact Shows.append (.of_codeFree (by decide)) (.paint (codeFree_append.2 ⟨by decide, hfree⟩) t.help)

theorem complaintBlock_shows {c : Complaint} (h : ∀ s ∈ c.strings, CodeFree s) :
    Shows (complaintBlock t c) (complaintBlock .plain c) :=
  .intercalate (by decide) (complaintRows_shows t h)

theorem codeFree_summaryLine (r : ScanResult) : CodeFree (summaryLine r) := by
  show CodeFree (toString r.total ++ " Complaints found: " ++ toString r.warnings ++ " Warnings, " ++
    toString r.criticals ++ " Critical.")
  simp only [codeFree_append, codeFree_toString, true_and]
  decide

theorem closing_shows (r : ScanResult) : Shows (closing t r) (closing .plain r) := by
  unfold closing
  split
  · exact .paint (by decide) t.success
  · exact .paint (codeFree_summaryLine r) t.summary

/-- The layout of a report does not depend on its colours. -/
theorem render_shows {r : ScanResult} (h : r.CodeFree) : Shows (render t r) (render .plain r) := by
  have hblocks : List.Forall₂ Shows (r.complaints.map (complaintBlock t)) (r.complaints.map (complaintBlock .plain)) := by
    rw [List.forall₂_map_left_iff, List.forall₂_map_right_iff, List.forall₂_same]
    exact fun c hc => complaintBlock_shows t (h c hc)
  have htext := Shows.intercalate (show CodeFree "\n\n" by decide)
    (List.rel_append hblocks (.cons (closing_shows t r) .nil))
  unfold render
  simp only
  split
  · exact (htext.append (.of_codeFree (by decide))).append (.of_codeFree (by decide))
  · exact htext

theorem mem_intercalate {sep row : String} {rows : List String} (hrow : row ∈ rows) {c : Char} (hc : c ∈ row.toList) :
    c ∈ (sep.intercalate rows).toList := by
  induction rows with
  | nil => simp at hrow
  | cons first rows ih =>
    cases rows with
    | nil =>
      obtain rfl := List.mem_singleton.1 hrow
      simpa using hc
    | cons next rows =>
      rw [String.intercalate_cons_cons, String.toList_append, String.toList_append]
      rcases List.mem_cons.1 hrow with rfl | hrow
      · simp [hc]
      · exact List.mem_append_right _ (ih hrow)

theorem mem_closing_colored (r : ScanResult) : '\x1b' ∈ (closing .colored r).toList := by
  unfold closing
  split <;> simp [Theme.colored, Style.paint, toList_escapeCode]

theorem mem_render_colored (r : ScanResult) : '\x1b' ∈ (render .colored r).toList := by
  have hclosing : closing .colored r ∈ r.complaints.map (complaintBlock .colored) ++ [closing .colored r] := by simp
  have htext : '\x1b' ∈ ("\n\n".intercalate (r.complaints.map (complaintBlock .colored) ++ [closing .colored r])).toList :=
    mem_intercalate hclosing (mem_closing_colored r)
  unfold render
  simp only
  split
  · rw [String.toList_append, String.toList_append]
    exact List.mem_append_left _ (List.mem_append_left _ htext)
  · exact htext

/-- A report with colours has terminal codes, and without them it is the plain report, which has none. Both end the run
with the same number. -/
theorem colored_shows_plain (r : ScanResult) (h : r.CodeFree) :
    unpaint (ofResult .colored r).text.toList = (ofResult .plain r).text.toList ∧
    CodeFree (ofResult .plain r).text ∧ '\x1b' ∈ (ofResult .colored r).text.toList ∧
    (ofResult .colored r).exitCode = (ofResult .plain r).exitCode := by
  have hshows := render_shows .colored h
  refine ⟨?_, hshows.codeFree, mem_render_colored r, rfl⟩
  have htext := hshows.unpaint_append []
  rwa [List.append_nil, show unpaint [] = [] from rfl, List.append_nil] at htext

/-- The texts of a complaint may look like what comes behind the escape of a terminal code. -/
def lookalikes : ScanResult where
  complaints := [
    ⟨"[1m", .critical, "a[0m", ⟨0, 1⟩, "31m", none, ⟨1, 1, 1, [⟨1, "m"⟩], some "^"⟩⟩,
    ⟨"0m", .warning, "b", ⟨0, 9⟩, "[", some "[35mé", ⟨1, 4, 1, [⟨1, "x["⟩, ⟨4, "0my"⟩], none⟩⟩]
  total := 2
  warnings := 1
  criticals := 1
  interrupted := true

theorem lookalikes_shows_plain : lookalikes.CodeFree ∧
    unpaint (ofResult .colored lookalikes).text.toList = (ofResult .plain lookalikes).text.toList ∧
    CodeFree (ofResult .plain lookalikes).text ∧ '\x1b' ∈ (ofResult .colored lookalikes).text.toList ∧
    (ofResult .colored lookalikes).exitCode = (ofResult .plain lookalikes).exitCode := by
  have h : lookalikes.CodeFree := by
    unfold ScanResult.CodeFree
    decide +kernel
  exact ⟨h, colored_shows_plain lookalikes h⟩

end Report

end PatternLint
