import Mathlib.Data.List.Chain
import PatternLint.Grammar.Search
import PatternLint.Proofs.Grammar.Forward
/-!
# The rounds of a search

A search with a grammar tries the start expression in one round after the other. `rounds` lists them, and
`findAll_eq` says that the matches and the places given up can be read off that list. Each round begins where the
one before it says (`roundsFrom_pairwise`), further on than all earlier ones, and from that the order of the matches
follows (`spansOf_chain`).
-/
namespace PatternLint

/-- A round of a search. -/
structure Round where
  /-- Where the round begins. -/
  place : Cursor
  /-- Where the start expression is tried, after blanks and ignored regions. -/
  start : Cursor
  /-- Whether something was cut off while they were skipped. -/
  skipCut : Bool
  attempt : Attempt
deriving DecidableEq, Repr

namespace Round

variable (r : Round)

/-- Whether the round has a match that consumes something. -/
def consumes : Bool := r.attempt.result.any (r.start.offset < ·.offset)

/-- Where the next round begins: at the end of a match that consumed something, else one character further on. -/
def next? : Option Cursor := if r.consumes then r.attempt.result else r.start.next?

/-- The end of the last match that consumed something, where `last` is the one before the round. -/
def last (last : Option Nat) : Option Nat := if r.consumes then r.attempt.result.map (·.offset) else last

/-- The match of the round, unless it is empty where the one before it ended. -/
def span? (last : Option Nat) : Option Span :=
  r.attempt.result.bind fun stop =>
    if !r.consumes && last == some stop.offset then none else some ⟨r.start.offset, stop.offset⟩

/-- The place given up in the round. -/
def abandoned? : Option Nat := if r.attempt.result.isNone && r.attempt.cutOff then some r.start.offset else none

/-- The start expression is tried further on, and not before the match of an earlier round ends. -/
def Later (r s : Round) : Prop :=
  r.start.offset < s.start.offset ∧ ∀ d, r.attempt.result = some d → d.offset ≤ s.start.offset

/-- The matches of rounds that come one after the other. -/
def spansOf : Option Nat → List Round → List Span
  | _, [] => []
  | last, r :: rs => (r.span? last).toList ++ spansOf (r.last last) rs

/-- What a round comes to: where to go on, the end of the last match that consumed something, and the matches found so
far, last first. -/
def outcome (last : Option Nat) (spans : List Span) : Option Cursor × Option Nat × List Span :=
  match r.attempt.result with
  | none => (r.start.next?, last, spans)
  | some stop =>
    if r.start.offset < stop.offset then (some stop, some stop.offset, ⟨r.start.offset, stop.offset⟩ :: spans)
    else (r.start.next?, last, if last = some stop.offset then spans else ⟨r.start.offset, stop.offset⟩ :: spans)

theorem outcome_eq (last : Option Nat) (spans : List Span) :
    r.outcome last spans = (r.next?, r.last last, (r.span? last).toList ++ spans) := by
  unfold outcome next? Round.last span? consumes
  cases r.attempt.result with
  | none => simp
  | some stop =>
    by_cases hlt : r.start.offset < stop.offset
    · simp [hlt]
    · by_cases hl : last = some stop.offset <;> simp [hlt, hl]

theorem span?_eq_some {last : Option Nat} {s : Span} (h : r.span? last = some s) :
    ∃ d, r.attempt.result = some d ∧ s = ⟨r.start.offset, d.offset⟩ ∧
      (r.consumes = false → last ≠ some d.offset) := by
  obtain ⟨d, hd, h⟩ := Option.bind_eq_some_iff.1 h
  split at h
  · cases h
  · next hn =>
    cases h
    exact ⟨d, hd, rfl, fun hc hl => hn (by simp [hc, hl])⟩

theorem consumes_iff {d : Cursor} (h : r.attempt.result = some d) :
    r.consumes = true ↔ r.start.offset < d.offset := by
  simp [consumes, h]

theorem abandoned?_eq_some {n : Nat} (h : r.abandoned? = some n) :
    r.attempt.result = none ∧ r.attempt.cutOff = true ∧ n = r.start.offset := by
  unfold abandoned? at h
  split at h
  · next hc =>
    cases h
    rw [Bool.and_eq_true, Option.isNone_iff_eq_none] at hc
    exact ⟨hc.1, hc.2, rfl⟩
  · cases h

theorem abandoned?_eq (abandoned : List Nat) :
    (if r.attempt.result.isNone && r.attempt.cutOff then r.start.offset :: abandoned else abandoned) =
      r.abandoned?.toList ++ abandoned := by
  unfold abandoned?
  split <;> simp

end Round

namespace Matcher

variable (m : Matcher) (levels : Nat)

/-- The round that begins at a place. -/
def round (c : Cursor) : Round :=
  ⟨c, (m.skip levels c).1, (m.skip levels c).2, m.parseSkipping levels m.start (m.skip levels c).1⟩

/-- The rounds from a place on. -/
def roundsFrom (c : Cursor) : (budget : List Char) → List Round
  | [] => [m.round levels c]
  | _ :: budget =>
    m.round levels c ::
      match (m.round levels c).next? with
      | some next => roundsFrom next budget
      | none => []

/-- The rounds of a search for all matches in a text. -/
def rounds (text : List Char) : List Round := m.roundsFrom levels (.start text) text

/-- How a search goes on after its first round. -/
def searchOn (next : Option Cursor × Option Nat × List Span) (abandoned : List Nat) (budget : List Char) : Matches :=
  match next.1, budget with
  | some c, _ :: budget => m.searchFrom levels c next.2.1 next.2.2 abandoned budget
  | _, _ => ⟨next.2.2.reverse, abandoned.reverse⟩

theorem searchFrom_round (c : Cursor) (last : Option Nat) (spans : List Span) (abandoned : List Nat)
    (budget : List Char) : m.searchFrom levels c last spans abandoned budget =
      m.searchOn levels ((m.round levels c).next?, (m.round levels c).last last,
        ((m.round levels c).span? last).toList ++ spans) ((m.round levels c).abandoned?.toList ++ abandoned) budget := by
  rw [← Round.outcome_eq, ← Round.abandoned?_eq]
  unfold searchFrom
  rfl

theorem searchFrom_eq (budget : List Char) : ∀ (c : Cursor) (last : Option Nat) (spans : List Span)
    (abandoned : List Nat), m.searchFrom levels c last spans abandoned budget =
      ⟨spans.reverse ++ Round.spansOf last (m.roundsFrom levels c budget),
        abandoned.reverse ++ (m.roundsFrom levels c budget).filterMap Round.abandoned?⟩ := by
  have htoList : ∀ {α : Type} (o : Option α), o.toList.reverse = o.toList := fun o => by cases o <;> rfl
  have hcons : ∀ (r : Round) (rs : List Round),
      (r :: rs).filterMap Round.abandoned? = r.abandoned?.toList ++ rs.filterMap Round.abandoned? := by
    intro r rs
    cases h : r.abandoned? <;> simp [h]
  induction budget with
  | nil =>
    intro c last spans abandoned
    rw [searchFrom_round, roundsFrom, hcons]
    simp [searchOn, Round.spansOf, htoList]
  | cons x budget ih =>
    intro c last spans abandoned
    rw [roundsFrom, hcons]
    cases hn : (m.round levels c).next? with
    | none =>
      rw [searchFrom_round, hn]
      simp [searchOn, Round.spansOf, htoList]
    | some next =>
      rw [searchFrom_round, hn]
      simp [searchOn, ih, Round.spansOf, htoList]

/-- The matches and the places given up can be read off the rounds. -/
theorem findAll_eq (text : List Char) : m.findAll levels text =
    ⟨Round.spansOf none (m.rounds levels text), (m.rounds levels text).filterMap Round.abandoned?⟩ := by
  rw [findAll, searchFrom_eq]
  rfl

/-! ## The order of the rounds -/

theorem round_reaches (c : Cursor) : c.Reaches (m.round levels c).start := m.skip_reaches levels c

theorem round_forward (c : Cursor) : (m.round levels c).attempt.Forward (m.round levels c).start :=
  m.parseSkipping_forward levels m.start _

/-- The next round begins further on than the start expression was tried, and not before its match ends. -/
theorem round_next {c next : Cursor} (h : (m.round levels c).next? = some next) :
    (m.round levels c).start.Reaches next ∧ (m.round levels c).start.offset < next.offset ∧
      ∀ d, (m.round levels c).attempt.result = some d → d.offset ≤ next.offset := by
  unfold Round.next? at h
  split at h
  · next hc =>
    simp only [Round.consumes, h, Option.any_some, decide_eq_true_eq] at hc
    refine ⟨m.round_forward levels c next h, hc, fun d hd => ?_⟩
    rw [h] at hd
    cases hd
    exact Nat.le_refl _
  · next hc =>
    have hlt := Cursor.next?_lt h
    refine ⟨Cursor.next?_reaches h, hlt, fun d hd => ?_⟩
    simp only [Round.consumes, hd, Option.any_some, decide_eq_true_eq] at hc
    omega

theorem mem_roundsFrom (budget : List Char) : ∀ {c : Cursor} {r : Round}, r ∈ m.roundsFrom levels c budget →
    c.Reaches r.place ∧ r = m.round levels r.place := by
  induction budget with
  | nil =>
    intro c r h
    rw [roundsFrom, List.mem_singleton] at h
    subst h
    exact ⟨.refl c, rfl⟩
  | cons x budget ih =>
    intro c r h
    rw [roundsFrom] at h
    rcases List.mem_cons.1 h with rfl | h
    · exact ⟨.refl c, rfl⟩
    · split at h
      · next n hn =>
        obtain ⟨hr, he⟩ := ih h
        exact ⟨(m.round_reaches levels c).trans ((m.round_next levels hn).1.trans hr), he⟩
      · simp at h

theorem mem_rounds {text : List Char} {r : Round} (h : r ∈ m.rounds levels text) :
    r.place.In text ∧ r = m.round levels r.place :=
  m.mem_roundsFrom levels text h

/-- Every round is later than those before it. -/
theorem roundsFrom_pairwise (budget : List Char) : ∀ c : Cursor,
    (m.roundsFrom levels c budget).Pairwise Round.Later := by
  induction budget with
  | nil => intro c; simp [roundsFrom]
  | cons x budget ih =>
    intro c
    rw [roundsFrom]
    split
    · next n hn =>
      refine List.pairwise_cons.2 ⟨fun s hs => ?_, ih n⟩
      obtain ⟨hp, he⟩ := m.mem_roundsFrom levels budget hs
      have hle : n.offset ≤ s.start.offset := by
        rw [he]
        exact (hp.trans (m.round_reaches levels s.place)).le
      obtain ⟨-, hlt, hd⟩ := m.round_next levels hn
      exact ⟨by omega, fun d h => (hd d h).trans hle⟩
    · simp

end Matcher

/-! ## The order of the matches -/

namespace Round

variable (r : Round)

theorem mem_spansOf {s : Span} (rs : List Round) : ∀ {last : Option Nat}, s ∈ spansOf last rs →
    ∃ r ∈ rs, ∃ d, r.attempt.result = some d ∧ s = ⟨r.start.offset, d.offset⟩ := by
  induction rs with
  | nil => intro last h; simp [spansOf] at h
  | cons r rs ih =>
    intro last h
    rcases List.mem_append.1 h with h | h
    · obtain ⟨d, hd, hs, -⟩ := r.span?_eq_some (Option.mem_toList.1 h)
      exact ⟨r, List.mem_cons_self, d, hd, hs⟩
    · obtain ⟨r', hr', hd⟩ := ih h
      exact ⟨r', List.mem_cons_of_mem _ hr', hd⟩

theorem last_of_span?_eq_none {last : Option Nat} (h : r.span? last = none) : r.last last = last := by
  unfold Round.last
  split
  · next hc =>
    unfold span? at h
    rw [hc] at h
    unfold consumes at hc
    cases hd : r.attempt.result <;> simp_all
  · rfl

/-- Where a later place is not the end of the last match that consumed something, a match ends before it. -/
theorem stop_lt_of_last_ne {last : Option Nat} {d : Cursor} {n : Nat} (hd : r.attempt.result = some d)
    (hlast : r.last last ≠ some n) (hstart : r.start.offset < n) (hstop : d.offset ≤ n) : d.offset < n := by
  unfold Round.last at hlast
  split at hlast
  · rw [hd, Option.map_some, ne_eq, Option.some.injEq] at hlast
    omega
  · next hc =>
    rw [r.consumes_iff hd] at hc
    omega

/-- The matches come one after the other, and the first of them is not empty where the last match before ended. -/
theorem spansOf_chain (rs : List Round) (hp : rs.Pairwise Later) : ∀ last, (spansOf last rs).IsChain Span.Precedes ∧
    ∀ s ∈ (spansOf last rs).head?, s.start = s.stop → last ≠ some s.start := by
  induction rs with
  | nil => intro last; simp [spansOf]
  | cons r rs ih =>
    intro last
    obtain ⟨hr, hp⟩ := List.pairwise_cons.1 hp
    obtain ⟨hc, hh⟩ := ih hp (r.last last)
    rw [spansOf]
    cases hs : r.span? last with
    | none =>
      rw [r.last_of_span?_eq_none hs] at hc hh ⊢
      exact ⟨hc, hh⟩
    | some b =>
      obtain ⟨d, hd, rfl, hne⟩ := r.span?_eq_some hs
      refine ⟨List.isChain_cons.2 ⟨fun y hy => ?_, hc⟩, fun s hs' he => ?_⟩
      · -- the next match belongs to a later round
        obtain ⟨r', hr', d', hd', hy'⟩ := mem_spansOf rs (List.mem_of_mem_head? hy)
        obtain ⟨hlt, hstop⟩ := hr r' hr'
        have hyh := hh y hy
        subst hy'
        exact ⟨hlt, hstop d hd, fun he => r.stop_lt_of_last_ne hd (hyh he) hlt (hstop d hd)⟩
      · cases hs'
        have hcons : r.consumes = false := by
          rw [← Bool.not_eq_true, r.consumes_iff hd]
          exact Nat.not_lt.2 (Nat.le_of_eq he.symm)
        rw [he]
        exact hne hcons

end Round

end PatternLint
