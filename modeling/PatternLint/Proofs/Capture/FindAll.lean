import PatternLint.Capture.Basic
import PatternLint.Proofs.Grammar.Compile
import PatternLint.Proofs.Grammar.Rounds
import PatternLint.Proofs.Regex.FindAll
/-!
# What a search reports

`WellPlaced` is what the readers of a search may count on: its matches lie in the text and one after the other, and
so do the places given up, none of them where a match was found. Main statement: a search with either kind of capture
is well placed, and a search with a pattern gives no place up.
-/
namespace PatternLint

/-- The span does not end before it starts, and both ends are places of the text. -/
def Span.In (s : Span) (text : List Char) : Prop :=
  s.start ≤ s.stop ∧ s.stop ≤ byteLength text ∧ Boundary text s.start ∧ Boundary text s.stop

theorem Span.in_of_reaches {text : List Char} {c d : Cursor} (hc : c.In text) (h : c.Reaches d) :
    Span.In ⟨c.offset, d.offset⟩ text := by
  have hd := hc.reaches h
  exact ⟨h.le, hd.le_length, hc.boundary, hd.boundary⟩

/-- The matches and the places given up are in order in the text. -/
structure Matches.WellPlaced (text : List Char) (r : Matches) : Prop where
  span_in : ∀ s ∈ r.spans, s.In text
  spans_precede : r.spans.IsChain Span.Precedes
  abandoned_increasing : r.abandoned.Pairwise (· < ·)
  abandoned_boundary : ∀ n ∈ r.abandoned, Boundary text n ∧ n ≤ byteLength text
  abandoned_apart : ∀ n ∈ r.abandoned, ∀ s ∈ r.spans, n ≠ s.start ∧ ¬(s.start ≤ n ∧ n < s.stop)

/-! ## Patterns -/

theorem Regex.Program.findAll_wellPlaced (p : Regex.Program) (text : List Char) :
    Matches.WellPlaced text ⟨(p.findAll text).map Found.span, []⟩ where
  span_in s hs := by
    obtain ⟨f, hf, rfl⟩ := List.mem_map.1 hs
    obtain ⟨d, hd, hstart, hstop⟩ := p.mem_findAll hf
    have := Span.in_of_reaches hd hstop
    rwa [hstart] at this
  spans_precede := p.findAll_precedes text
  abandoned_increasing := .nil
  abandoned_boundary := by simp
  abandoned_apart := by simp

/-! ## Grammars -/

namespace Matcher

variable (m : Matcher) (levels : Nat) {text : List Char} {r : Round}

theorem rounds_start_in (h : r ∈ m.rounds levels text) : r.start.In text := by
  obtain ⟨hin, he⟩ := m.mem_rounds levels h
  rw [he]
  exact hin.reaches (m.round_reaches levels r.place)

theorem rounds_forward (h : r ∈ m.rounds levels text) : r.attempt.Forward r.start := by
  rw [(m.mem_rounds levels h).2]
  exact m.round_forward levels r.place

theorem rounds_pairwise (text : List Char) : (m.rounds levels text).Pairwise Round.Later :=
  m.roundsFrom_pairwise levels text (.start text)

theorem findAll_wellPlaced (text : List Char) : (m.findAll levels text).WellPlaced text := by
  have hp := m.rounds_pairwise levels text
  rw [findAll_eq]
  refine ⟨?_, (Round.spansOf_chain _ hp none).1, ?_, ?_, ?_⟩
  · intro s hs
    obtain ⟨r, hr, d, hd, rfl⟩ := Round.mem_spansOf _ hs
    exact Span.in_of_reaches (m.rounds_start_in levels hr) (m.rounds_forward levels hr d hd)
  · refine List.Pairwise.filterMap _ ?_ hp
    intro r s h n hn k hk
    obtain ⟨-, -, rfl⟩ := r.abandoned?_eq_some hn
    obtain ⟨-, -, rfl⟩ := s.abandoned?_eq_some hk
    exact h.1
  · intro n hn
    obtain ⟨r, hr, hn⟩ := List.mem_filterMap.1 hn
    obtain ⟨-, -, rfl⟩ := r.abandoned?_eq_some hn
    have hr := m.rounds_start_in levels hr
    exact ⟨hr.boundary, hr.le_length⟩
  · intro n hn s hs
    obtain ⟨r, hr, hn⟩ := List.mem_filterMap.1 hn
    obtain ⟨hnone, -, rfl⟩ := r.abandoned?_eq_some hn
    obtain ⟨t, ht, d, hd, rfl⟩ := Round.mem_spansOf _ hs
    -- the place given up and the match belong to two rounds, and one of the two is the later one
    have hne : r ≠ t := by
      rintro rfl
      rw [hnone] at hd
      cases hd
    have : Std.Symm fun a b : Round => a.Later b ∨ b.Later a := ⟨fun _ _ h => h.symm⟩
    have hp' : (m.rounds levels text).Pairwise fun a b => a.Later b ∨ b.Later a := hp.imp Or.inl
    have hor : r.Later t ∨ t.Later r := hp'.forall hr ht hne
    rcases hor with ⟨hlt, -⟩ | ⟨hlt, hstop⟩
    · simp only
      omega
    · have := hstop d hd
      simp only
      omega

end Matcher

/-! ## Captures -/

/-- The matches of a capture that can be made ready lie in the text, one after the other, and no place given up lies in
one of them; a pattern gives no place up. -/
theorem Capture.compile_findAll_wellPlaced (capture : Capture) (f : Finder) (h : capture.compile = .ok f)
    (text : List Char) : (f.findAll text).WellPlaced text ∧
      (∀ source options, capture = .pattern source options → (f.findAll text).abandoned = []) := by
  cases f with
  | pattern p => exact ⟨p.findAll_wellPlaced text, fun _ _ _ => rfl⟩
  | grammar m =>
    refine ⟨m.findAll_wellPlaced Matcher.maxNesting text, fun source options hc => ?_⟩
    subst hc
    simp only [Capture.compile] at h
    split at h
    · cases h
    · split at h <;> cases h

/-- Looks for a blank, and where there is none, for a rule that calls itself at the edge of a word. -/
def Capture.blankOrLoop : Capture :=
  .grammar (({ start := .choice (.literal [' ']) (.rule "r") } : Grammar).define "r"
    (.all [.terminal "\\b", .rule "r"]))

/-- A blank is found between two places that are given up. -/
theorem Capture.blankOrLoop_findAll_wellPlaced : ∃ f, blankOrLoop.compile = .ok f ∧
    f.findAll "a b".toList = ⟨[⟨1, 2⟩], [0, 2]⟩ ∧ (f.findAll "a b".toList).WellPlaced "a b".toList := by
  have h : blankOrLoop.compile.toOption.map (·.findAll "a b".toList) = some ⟨[⟨1, 2⟩], [0, 2]⟩ := by decide +kernel
  obtain ⟨f, hf, hr⟩ := toOption_map_ok h
  exact ⟨f, hf, hr, (compile_findAll_wellPlaced _ f hf _).1⟩

end PatternLint
