import PatternLint.Proofs.Grammar.Forward
import PatternLint.Proofs.Text.Reads
/-!
# The same place, the same outcome

A grammar does not look back. What stands before a place has no part in what comes of trying an expression there
(`Matcher.parse_congr`) or of skipping from there (`Matcher.skip_congr`), so that an attempt that consumes nothing can be
made again and comes to the same. Hence what a pass that moves nothing has tried, it has tried where skipping ends:
no blank stands there, and no ignored region that consumes anything (`Matcher.settled_skip`).
-/
namespace PatternLint

namespace Attempt

variable {a b : Attempt} {cut : Bool}

/-- The outcome with what stands before the place it leads to out of sight. -/
def alone (a : Attempt) : Attempt := ⟨a.result.map Cursor.alone, a.cutOff⟩

theorem alone_eq_iff : a.alone = b.alone ↔
    a.result.map Cursor.alone = b.result.map Cursor.alone ∧ a.cutOff = b.cutOff := by
  simp [alone]

@[simp] theorem alone_after : (a.after cut).alone = a.alone.after cut := rfl

theorem eq_of_alone_none (h : alone ⟨none, cut⟩ = a.alone) : a = ⟨none, cut⟩ := by
  obtain ⟨hr, hcut⟩ := alone_eq_iff.1 h
  obtain ⟨r, cut'⟩ := a
  cases r with
  | none => cases hcut; rfl
  | some d => cases hr

theorem exists_of_alone_some {c : Cursor} (h : alone ⟨some c, cut⟩ = a.alone) :
    ∃ d, a = ⟨some d, cut⟩ ∧ c.alone = d.alone := by
  obtain ⟨hr, hcut⟩ := alone_eq_iff.1 h
  obtain ⟨r, cut'⟩ := a
  cases r with
  | none => cases hr
  | some d => cases hcut; exact ⟨d, rfl, Option.some.inj hr⟩

/-- At the same place `p` comes to the same. -/
def Steady (p : Cursor → Attempt) : Prop := ∀ c d : Cursor, c.alone = d.alone → (p c).alone = (p d).alone

namespace Steady

variable {p : Cursor → Attempt} (hp : Steady p) {c d c' : Cursor} (h : c.alone = d.alone)
include hp h

theorem eq_none (hc : p c = ⟨none, cut⟩) : p d = ⟨none, cut⟩ := by
  have hd := hp c d h
  rw [hc] at hd
  exact eq_of_alone_none hd

theorem exists_some (hc : p c = ⟨some c', cut⟩) : ∃ d', p d = ⟨some d', cut⟩ ∧ c'.alone = d'.alone := by
  have hd := hp c d h
  rw [hc] at hd
  exact exists_of_alone_some hd

theorem exists_result (hc : (p c).result = some c') : ∃ d', (p d).result = some d' ∧ c'.alone = d'.alone := by
  obtain ⟨d', hd, hcd⟩ := hp.exists_some h (show p c = ⟨some c', (p c).cutOff⟩ by rw [← hc])
  exact ⟨d', by rw [hd], hcd⟩

end Steady

/-- A repetition that ends where it stands, at the same place. -/
theorem map_alone_stay {c d : Cursor} (h : c.alone = d.alone) (q : Prop) [Decidable q] :
    (if q then some c else none).map Cursor.alone = (if q then some d else none).map Cursor.alone := by
  by_cases hq : q <;> simp [hq, h]

end Attempt

open Attempt

/-! ## Expressions -/

theorem Repeats.congr {p : Cursor → Attempt} (hp : Steady p) {min : Nat} {max : Option Nat} {count : Nat} {c : Cursor}
    {a : Attempt} (h : Repeats p min max count c a) : ∀ {d : Cursor}, c.alone = d.alone →
      ∃ b, Repeats p min max count d b ∧ a.alone = b.alone := by
  induction h with
  | full hf =>
    intro d hd
    exact ⟨_, .full hf, alone_eq_iff.2 ⟨map_alone_stay hd _, rfl⟩⟩
  | @stop count c cut hf hpc =>
    intro d hd
    exact ⟨_, .stop hf (hp.eq_none hd hpc), alone_eq_iff.2 ⟨map_alone_stay hd _, rfl⟩⟩
  | @idle count c c' cut hf hpc ho =>
    intro d hd
    obtain ⟨d', hpd, hd'⟩ := hp.exists_some hd hpc
    exact ⟨_, .idle hf hpd ((Cursor.offset_eq_congr hd hd').1 ho), by simp [alone, hd]⟩
  | @more count c c' cut a hf hpc ho _ ih =>
    intro d hd
    obtain ⟨d', hpd, hd'⟩ := hp.exists_some hd hpc
    have ho' : d'.offset ≠ d.offset := mt (Cursor.offset_eq_congr hd hd').2 ho
    obtain ⟨b, hb, hab⟩ := ih hd'
    exact ⟨_, .more hf hpd ho' hb, by rw [alone_after, alone_after, hab]⟩

theorem Expr.parse_congr {τ ρ : Type} {run : τ → Cursor → Option Cursor} {lead : Cursor → Cursor × Bool}
    {call : ρ → Cursor → Attempt} (hforward : ∀ (e : Expr τ ρ) c, (e.parse run lead call c).Forward c)
    (hrun : ∀ t (c d : Cursor), c.alone = d.alone → run t c = run t d)
    (hlead : ∀ c d : Cursor, c.alone = d.alone → (lead c).1.alone = (lead d).1.alone ∧ (lead c).2 = (lead d).2)
    (hcall : ∀ r, Steady (call r)) (e : Expr τ ρ) : Steady (e.parse run lead call) := by
  induction e with
  | empty => intro c d h; simp [parse, alone, h]
  | never => intro c d h; rfl
  | literal word => intro c d h; exact alone_eq_iff.2 ⟨Cursor.strip?_congr (hlead c d h).1 word, (hlead c d h).2⟩
  | terminal t =>
    intro c d h
    exact alone_eq_iff.2 ⟨congrArg (Option.map Cursor.alone) (hrun t _ _ (hlead c d h).1), (hlead c d h).2⟩
  | any =>
    intro c d h
    exact alone_eq_iff.2 ⟨congrArg (Option.map Cursor.alone) (Cursor.next?_congr (hlead c d h).1), (hlead c d h).2⟩
  | seq a b iha ihb =>
    intro c d h
    rw [parse, parse]
    cases hc : a.parse run lead call c with
    | mk r cut =>
      cases r with
      | none => rw [iha.eq_none h hc]
      | some c' =>
        obtain ⟨d', hd, hcd⟩ := iha.exists_some h hc
        rw [hd]
        exact congrArg (after cut) (ihb c' d' hcd)
  | choice a b iha ihb =>
    intro c d h
    rw [parse, parse]
    cases hc : a.parse run lead call c with
    | mk r cut =>
      cases r with
      | none =>
        rw [iha.eq_none h hc]
        exact congrArg (after cut) (ihb c d h)
      | some c' =>
        obtain ⟨d', hd, hcd⟩ := iha.exists_some h hc
        rw [hd]
        simp [alone, hcd]
  | rounds e min max ih =>
    intro c d h
    obtain ⟨b, hb, hab⟩ := (parse_rounds (hforward e) min max c).congr ih h
    rw [hab, hb.unique (parse_rounds (hforward e) min max d)]
  | ahead e ih =>
    intro c d h
    obtain ⟨hr, hcut⟩ := alone_eq_iff.1 (ih c d h)
    refine alone_eq_iff.2 ⟨?_, hcut⟩
    have hstay := congrArg (Option.map fun _ => c.alone) hr
    simpa [parse, Function.comp_def, h] using hstay
  | notAhead e ih =>
    intro c d h
    obtain ⟨hr, hcut⟩ := alone_eq_iff.1 (ih c d h)
    refine alone_eq_iff.2 ⟨?_, hcut⟩
    have hsome := congrArg Option.isSome hr
    rw [Option.isSome_map, Option.isSome_map] at hsome
    simp only [parse, hsome]
    split <;> simp [h]
  | rule r => exact hcall r

/-! ## Matchers -/

namespace Matcher

variable (m : Matcher) (levels : Nat)

theorem runTerminal_congr (p : Regex.Program) (c d : Cursor) (h : c.alone = d.alone) :
    runTerminal p c = runTerminal p d := by
  rw [runTerminal, runTerminal, h]

theorem parse_congr {lead : Cursor → Cursor × Bool} (hreach : ∀ c : Cursor, c.Reaches (lead c).1)
    (hlead : ∀ c d : Cursor, c.alone = d.alone → (lead c).1.alone = (lead d).1.alone ∧ (lead c).2 = (lead d).2) :
    ∀ e : Node m.size, Steady (m.parse lead levels e) := by
  induction levels with
  | zero => exact Expr.parse_congr (m.parse_forward hreach 0) runTerminal_congr hlead fun _ _ _ _ => rfl
  | succ levels ih =>
    exact Expr.parse_congr (m.parse_forward hreach (levels + 1)) runTerminal_congr hlead fun i => ih (m.rules.get i)

theorem parseBare_congr (e : Node m.size) : Steady (m.parseBare levels e) :=
  m.parse_congr levels (fun c => .refl c) (fun _ _ h => ⟨h, rfl⟩) e

theorem foldl_skipRegion_congr (es : List (Node m.size)) : ∀ {c d : Cursor} (cut : Bool), c.alone = d.alone →
    (es.foldl (m.skipRegion levels) (c, cut)).1.alone = (es.foldl (m.skipRegion levels) (d, cut)).1.alone ∧
      (es.foldl (m.skipRegion levels) (c, cut)).2 = (es.foldl (m.skipRegion levels) (d, cut)).2 := by
  induction es with
  | nil => intro c d cut h; exact ⟨h, rfl⟩
  | cons e es ih =>
    intro c d cut h
    have he := m.parseBare_congr levels e
    rw [List.foldl_cons, List.foldl_cons, skipRegion, skipRegion]
    cases hc : m.parseBare levels e c with
    | mk r cut' =>
      cases r with
      | none =>
        rw [he.eq_none h hc]
        exact ih _ h
      | some c' =>
        obtain ⟨d', hd, hcd⟩ := he.exists_some h hc
        rw [hd]
        exact ih _ hcd

/-- Past the blanks at a place, if they are skipped. -/
def pastBlanks (c : Cursor) : Cursor := if m.skipBlanks then c.dropWhile isBlank else c

theorem skipOnce_eq (c : Cursor) : m.skipOnce levels c = m.ignored.foldl (m.skipRegion levels) (m.pastBlanks c, false) :=
  rfl

theorem pastBlanks_reaches (c : Cursor) : c.Reaches (m.pastBlanks c) := by
  unfold pastBlanks
  split
  · exact c.dropWhile_reaches isBlank
  · exact .refl c

theorem pastBlanks_congr {c d : Cursor} (h : c.alone = d.alone) : (m.pastBlanks c).alone = (m.pastBlanks d).alone := by
  unfold pastBlanks
  split
  · exact Cursor.dropWhile_congr h isBlank
  · exact h

theorem skipOnce_congr {c d : Cursor} (h : c.alone = d.alone) :
    (m.skipOnce levels c).1.alone = (m.skipOnce levels d).1.alone ∧
      (m.skipOnce levels c).2 = (m.skipOnce levels d).2 :=
  m.foldl_skipRegion_congr levels m.ignored false (m.pastBlanks_congr h)

theorem SkipsTo.congr {c : Cursor} {s : Cursor × Bool} (h : m.SkipsTo levels c s) : ∀ {d : Cursor} {t : Cursor × Bool},
    c.alone = d.alone → m.SkipsTo levels d t → s.1.alone = t.1.alone ∧ s.2 = t.2 := by
  induction h with
  | done ho =>
    intro d t hd ht
    obtain ⟨hplace, hcut⟩ := m.skipOnce_congr levels hd
    cases ht with
    | done _ => exact ⟨hplace, hcut⟩
    | more ho' _ => exact absurd ((Cursor.offset_eq_congr hd hplace).1 ho) ho'
  | more ho _ ih =>
    intro d t hd ht
    obtain ⟨hplace, hcut⟩ := m.skipOnce_congr levels hd
    cases ht with
    | done ho' => exact absurd ((Cursor.offset_eq_congr hd hplace).2 ho') ho
    | more _ ht =>
      obtain ⟨h1, h2⟩ := ih hplace ht
      exact ⟨h1, congrArg₂ or hcut h2⟩

theorem skip_congr {c d : Cursor} (h : c.alone = d.alone) :
    (m.skip levels c).1.alone = (m.skip levels d).1.alone ∧ (m.skip levels c).2 = (m.skip levels d).2 :=
  (m.skip_skipsTo levels c).congr m levels h (m.skip_skipsTo levels d)

theorem lead_congr (skipping : Bool) (c d : Cursor) (h : c.alone = d.alone) :
    (m.lead skipping levels c).1.alone = (m.lead skipping levels d).1.alone ∧
      (m.lead skipping levels c).2 = (m.lead skipping levels d).2 := by
  cases skipping with
  | false => exact ⟨h, rfl⟩
  | true => exact m.skip_congr levels h

/-! ## What skipping settles -/

/-- Nothing is left to skip at a place: no blank stands there, if blanks are skipped, and an ignored region that
succeeds there consumes nothing. -/
structure Settled (c : Cursor) : Prop where
  blank : m.skipBlanks = true → ∀ x ∈ c.after, isBlank x = false
  region : ∀ e ∈ m.ignored, ∀ d, (m.parseBare levels e c).result = some d → d.offset = c.offset

theorem foldl_skipRegion_still {es : List (Node m.size)} : ∀ {s : Cursor × Bool},
    (es.foldl (m.skipRegion levels) s).1.offset = s.1.offset →
      ∀ e ∈ es, ∀ d, (m.parseBare levels e s.1).result = some d → d.offset = s.1.offset := by
  induction es with
  | nil => intro s _ e he; cases he
  | cons e es ih =>
    intro s hs e' he' d hd
    have hfirst : s.1.Reaches (m.skipRegion levels s e).1 := m.foldl_skipRegion_reaches levels [e] s
    have hrest := m.foldl_skipRegion_reaches levels es (m.skipRegion levels s e)
    rw [List.foldl_cons] at hs
    -- each region leaves the place where it was, since none goes back
    have hstay : (m.skipRegion levels s e).1.offset = s.1.offset :=
      Nat.le_antisymm (hs ▸ hrest.le) hfirst.le
    rcases List.mem_cons.1 he' with rfl | he'
    · simpa [skipRegion, hd] using hstay
    · have hsame := (hfirst.alone_eq hstay).symm
      obtain ⟨q, hq, hdq⟩ := (m.parseBare_congr levels e').exists_result hsame hd
      rw [(Cursor.alone_eq_iff.1 hdq).1, ← hstay]
      exact ih (hs.trans hstay.symm) e' he' q hq

/-- A pass that moves nothing has found nothing to skip. -/
theorem settled_of_skipOnce {c : Cursor} (h : (m.skipOnce levels c).1.offset = c.offset) : m.Settled levels c := by
  rw [skipOnce_eq] at h
  have hregions := m.foldl_skipRegion_reaches levels m.ignored (m.pastBlanks c, false)
  have hblanks : (m.pastBlanks c).offset = c.offset := Nat.le_antisymm (h ▸ hregions.le) (m.pastBlanks_reaches c).le
  refine ⟨fun hskip x hx => ?_, fun e he d hd => ?_⟩
  · rw [pastBlanks, if_pos hskip, Cursor.dropWhile_offset] at hblanks
    have hnone : c.rest.takeWhile isBlank = [] := byteLength_eq_zero.1 (by omega)
    obtain ⟨xs, hxs⟩ := List.head?_eq_some_iff.1 hx
    by_contra hblank
    rw [hxs, List.takeWhile_cons_of_pos (by simpa using hblank)] at hnone
    cases hnone
  · have hsame := ((m.pastBlanks_reaches c).alone_eq hblanks).symm
    obtain ⟨q, hq, hdq⟩ := (m.parseBare_congr levels e).exists_result hsame hd
    rw [(Cursor.alone_eq_iff.1 hdq).1, ← hblanks]
    exact m.foldl_skipRegion_still levels (h.trans hblanks.symm) e he q hq

/-- At the place where skipping ends, a pass moves nothing. -/
theorem skipOnce_skip (c : Cursor) :
    (m.skipOnce levels (m.skip levels c).1).1.offset = (m.skip levels c).1.offset := by
  have h := m.skip_skipsTo levels c
  generalize m.skip levels c = s at h
  induction h with
  | @done c ho =>
    have hsame := (m.skipOnce_reaches levels c).alone_eq ho
    exact (Cursor.alone_eq_iff.1 (m.skipOnce_congr levels hsame).1).1
  | more _ _ ih => exact ih

theorem settled_skip (c : Cursor) : m.Settled levels (m.skip levels c).1 :=
  m.settled_of_skipOnce levels (m.skipOnce_skip levels c)

/-- Where skipping ends, there is nothing more to skip. -/
theorem skip_skip (c : Cursor) : (m.skip levels (m.skip levels c).1).1.offset = (m.skip levels c).1.offset := by
  have hstill := m.skipOnce_skip levels c
  have h := m.skip_skipsTo levels (m.skip levels c).1
  generalize m.skip levels (m.skip levels c).1 = s at h
  cases h with
  | done _ => exact hstill
  | more ho _ => exact absurd hstill ho

end Matcher

end PatternLint
