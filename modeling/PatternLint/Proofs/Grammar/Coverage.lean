import PatternLint.Proofs.Capture.FindAll
/-!
# A search accounts for every place

The places where the rounds of a search begin are given by a rule: the first is the beginning of the text, and after a
round the next begins at the end of its match, or one character further on. `Begins` states the rule, and the rounds of
a search are exactly those it gives (`begins_iff`). Main statement: `findAll_covers`, by which each place of a text lies
in a match, was skipped, or is one where the start expression was tried in vain.
-/
namespace PatternLint

namespace Cursor

variable {c d e : Cursor}

/-- Of two places that can be reached from the same one, the later can be reached from the earlier. -/
theorem Reaches.of_le (hd : c.Reaches d) (he : c.Reaches e) (hle : d.offset ≤ e.offset) : d.Reaches e := by
  obtain ⟨a, ha, ha'⟩ := hd
  obtain ⟨b, hb, hb'⟩ := he
  rw [ha] at hb
  rcases List.append_eq_append_iff.1 hb with ⟨mid, rfl, hmid⟩ | ⟨mid, rfl, hmid⟩
  · exact ⟨mid, hmid, by rw [hb', ha', byteLength_append, Nat.add_assoc]⟩
  · -- the second place would lie before the first
    rw [byteLength_append] at ha'
    obtain rfl := byteLength_eq_zero.1 (by omega : byteLength mid = 0)
    exact ⟨[], by simpa using hmid.symm, by simp only [byteLength_nil] at ha' ⊢; omega⟩

/-- No place lies between a place and the next. -/
theorem Reaches.next_le (h : c.Reaches d) (hlt : c.offset < d.offset) :
    ∃ n, c.next? = some n ∧ n.offset ≤ d.offset := by
  obtain ⟨mid, hr, ho⟩ := h
  cases mid with
  | nil =>
    simp only [byteLength_nil] at ho
    omega
  | cons x mid =>
    rw [byteLength_cons] at ho
    exact ⟨⟨some x, c.offset + x.utf8Size, mid ++ d.rest⟩, by simp [next?, hr], by simp only; omega⟩

theorem exists_in_of_boundary {text : List Char} {p : Nat} (h : Boundary text p) :
    ∃ d : Cursor, d.In text ∧ d.offset = p := by
  obtain ⟨pre, ⟨post, rfl⟩, rfl⟩ := h
  exact ⟨⟨none, byteLength pre, post⟩, ⟨pre, rfl, by simp [start]⟩, rfl⟩

end Cursor

/-! ## Where the rounds begin -/

namespace Matcher

variable (m : Matcher) (levels : Nat)

/-- Where the start expression leads to from a place, if it succeeds there. -/
def tried (c : Cursor) : Option Cursor := (m.parseSkipping levels m.start c).result

/-- The places where the rounds of a search begin. -/
inductive Begins (text : List Char) : Cursor → Prop
  | start : Begins text (.start text)
  /-- After a match that consumes something, the next round begins at its end. -/
  | behind {q e : Cursor} : Begins text q → m.tried levels (m.skip levels q).1 = some e →
      (m.skip levels q).1.offset < e.offset → Begins text e
  /-- Without one it begins a character further on. -/
  | onward {q d : Cursor} : Begins text q →
      (∀ e, m.tried levels (m.skip levels q).1 = some e → e.offset ≤ (m.skip levels q).1.offset) →
      (m.skip levels q).1.next? = some d → Begins text d

variable {m levels} {text : List Char}

theorem Begins.next {q n : Cursor} (h : m.Begins levels text q) (hn : (m.round levels q).next? = some n) :
    m.Begins levels text n := by
  unfold Round.next? at hn
  split at hn
  · next hc => exact h.behind hn ((Round.consumes_iff _ hn).1 hc)
  · next hc =>
    refine h.onward (fun e he => ?_) hn
    rw [Round.consumes_iff _ he] at hc
    exact Nat.le_of_not_lt hc

theorem round_mem_roundsFrom (q : Cursor) (budget : List Char) : m.round levels q ∈ m.roundsFrom levels q budget := by
  cases budget <;> exact List.mem_cons_self

/-- The next round has less text left. -/
theorem length_lt_of_next {c n : Cursor} (hn : (m.round levels c).next? = some n) : n.rest.length < c.rest.length := by
  obtain ⟨hreach, hlt, -⟩ := m.round_next levels hn
  have hle := (m.round_reaches levels c).le
  exact ((m.round_reaches levels c).trans hreach).length_lt (by omega)

/-- The budget is never used up: where a round says where to go on, there is a round. -/
theorem next_mem_roundsFrom (budget : List Char) : ∀ {c n : Cursor} {r : Round}, c.rest.length ≤ budget.length →
    r ∈ m.roundsFrom levels c budget → r.next? = some n → m.round levels n ∈ m.roundsFrom levels c budget := by
  induction budget with
  | nil =>
    intro c n r hb hr hn
    obtain rfl := List.mem_singleton.1 hr
    have := length_lt_of_next hn
    simp only [List.length_nil] at hb
    omega
  | cons x budget ih =>
    intro c n r hb hr hn
    simp only [List.length_cons] at hb
    rw [roundsFrom] at hr ⊢
    refine List.mem_cons_of_mem _ ?_
    rcases List.mem_cons.1 hr with rfl | hr
    · rw [hn]
      exact round_mem_roundsFrom n budget
    · cases hd : (m.round levels c).next? with
      | none =>
        rw [hd] at hr
        cases hr
      | some d =>
        have := length_lt_of_next hd
        rw [hd] at hr
        exact ih (by omega) hr hn

theorem begins_of_mem_roundsFrom (budget : List Char) : ∀ {c : Cursor} {r : Round}, m.Begins levels text c →
    r ∈ m.roundsFrom levels c budget → m.Begins levels text r.place := by
  induction budget with
  | nil =>
    intro c r hc hr
    obtain rfl := List.mem_singleton.1 hr
    exact hc
  | cons x budget ih =>
    intro c r hc hr
    rcases List.mem_cons.1 hr with rfl | hr
    · exact hc
    · cases hn : (m.round levels c).next? with
      | none =>
        rw [hn] at hr
        cases hr
      | some n =>
        rw [hn] at hr
        exact ih (hc.next hn) hr

/-- A search makes the rounds that begin where the rule says, and no others. -/
theorem begins_iff {q : Cursor} : m.Begins levels text q ↔ m.round levels q ∈ m.rounds levels text := by
  constructor
  · intro h
    induction h with
    | start => exact round_mem_roundsFrom _ text
    | @behind q e _ he hlt ih =>
      refine next_mem_roundsFrom text (Nat.le_refl _) ih ?_
      have hc : (m.round levels q).consumes = true := (Round.consumes_iff _ he).2 hlt
      rw [Round.next?, if_pos hc]
      exact he
    | @onward q d _ hnot hd ih =>
      refine next_mem_roundsFrom text (Nat.le_refl _) ih ?_
      have hc : ¬(m.round levels q).consumes = true := by
        cases he : m.tried levels (m.skip levels q).1 with
        | none =>
          have he : (m.round levels q).attempt.result = none := he
          simp [Round.consumes, he]
        | some e =>
          rw [Round.consumes_iff _ he]
          exact Nat.not_lt.2 (hnot e he)
      rw [Round.next?, if_neg hc]
      exact hd
  · intro h
    exact begins_of_mem_roundsFrom text .start h

/-- Each place belongs to a round: it does not lie before the place where the round begins, and it lies before that
where the next begins. -/
theorem exists_round (m : Matcher) (levels : Nat) (budget : List Char) :
    ∀ {c d : Cursor}, c.rest.length ≤ budget.length → c.Reaches d →
    ∃ q, m.round levels q ∈ m.roundsFrom levels c budget ∧ q.Reaches d ∧
      ∀ n, (m.round levels q).next? = some n → d.offset < n.offset := by
  induction budget with
  | nil =>
    intro c d hb hd
    refine ⟨c, round_mem_roundsFrom c [], hd, fun n hn => ?_⟩
    have := length_lt_of_next hn
    simp only [List.length_nil] at hb
    omega
  | cons x budget ih =>
    intro c d hb hd
    by_cases hlast : ∀ n, (m.round levels c).next? = some n → d.offset < n.offset
    · exact ⟨c, round_mem_roundsFrom c _, hd, hlast⟩
    · push Not at hlast
      obtain ⟨n, hn, hle⟩ := hlast
      have hlen := length_lt_of_next hn
      simp only [List.length_cons] at hb
      have hreach : c.Reaches n := (m.round_reaches levels c).trans (m.round_next levels hn).1
      obtain ⟨q, hq, hqd, hnext⟩ := ih (by omega) (hreach.of_le hd hle)
      refine ⟨q, ?_, hqd, hnext⟩
      rw [roundsFrom, hn]
      exact List.mem_cons_of_mem _ hq

theorem exists_begins (m : Matcher) (levels : Nat) {d : Cursor} (hd : d.In text) :
    ∃ q, m.Begins levels text q ∧ q.Reaches d ∧ ∀ n, (m.round levels q).next? = some n → d.offset < n.offset := by
  obtain ⟨q, hq, hqd, hnext⟩ := m.exists_round levels text (Nat.le_refl _) hd
  exact ⟨q, begins_iff.2 hq, hqd, hnext⟩

/-- A place of a round was skipped in it, or is where the start expression is tried, or lies in the match. -/
theorem place_cases {q d : Cursor} (hd : q.Reaches d)
    (hnext : ∀ n, (m.round levels q).next? = some n → d.offset < n.offset) :
    d.offset < (m.skip levels q).1.offset ∨ d.offset = (m.skip levels q).1.offset ∨
      ∃ e, m.tried levels (m.skip levels q).1 = some e ∧ (m.skip levels q).1.offset < d.offset ∧
        d.offset < e.offset := by
  rcases Nat.lt_trichotomy d.offset (m.skip levels q).1.offset with hlt | heq | hgt
  · exact .inl hlt
  · exact .inr (.inl heq)
  · refine .inr (.inr ?_)
    unfold Round.next? at hnext
    split at hnext
    · next hc =>
      cases he : m.tried levels (m.skip levels q).1 with
      | none =>
        have he : (m.round levels q).attempt.result = none := he
        simp [Round.consumes, he] at hc
      | some e => exact ⟨e, rfl, hgt, hnext e he⟩
    · -- the next round begins a character further on, and no place lies between
      obtain ⟨n, hn, hle⟩ := ((m.skip_reaches levels q).of_le hd (Nat.le_of_lt hgt)).next_le hgt
      exact absurd (hnext n hn) (Nat.not_lt.2 hle)

end Matcher

/-! ## Where the start expression is tried -/

/-- The last of the matches before an offset that consume something. -/
def lastConsuming? (spans : List Span) (p : Nat) : Option Span :=
  (spans.filter fun s => s.start < p && s.start < s.stop).getLast?

theorem Span.Precedes.trans {a b c : Span} (h : a.Precedes b) (h' : b.Precedes c) : a.Precedes c := by
  unfold Precedes at *
  omega

/-- A match that consumes something is the last before the place where it ends. -/
theorem lastConsuming?_stop {spans : List Span} (hchain : spans.IsChain Span.Precedes) {s : Span} (hs : s ∈ spans)
    (hlt : s.start < s.stop) : lastConsuming? spans s.stop = some s := by
  have : Trans Span.Precedes Span.Precedes Span.Precedes := ⟨Span.Precedes.trans⟩
  have hmem : s ∈ spans.filter fun t => t.start < s.stop && t.start < t.stop :=
    List.mem_filter.2 ⟨hs, by simp [hlt]⟩
  have hpair := hchain.pairwise.filter fun t => t.start < s.stop && t.start < t.stop
  unfold lastConsuming?
  obtain ⟨before, after, he⟩ := List.append_of_mem hmem
  rw [he] at hpair ⊢
  obtain ⟨-, hpair, -⟩ := List.pairwise_append.1 hpair
  -- a later match starts at the end of this one or further on
  have hafter : after = [] := by
    refine List.eq_nil_iff_forall_not_mem.2 fun t ht => ?_
    have hle := ((List.pairwise_cons.1 hpair).1 t ht).2.1
    have htf : t ∈ spans.filter fun t => t.start < s.stop && t.start < t.stop := by
      rw [he]
      exact List.mem_append_right _ (List.mem_cons_of_mem _ ht)
    have hstart := (List.mem_filter.1 htf).2
    simp only [Bool.and_eq_true, decide_eq_true_eq] at hstart
    omega
  rw [hafter, List.getLast?_concat]

namespace Round

/-- A round that succeeds is reported, or it is empty where a match ended that consumed something: that of an earlier
round, or the one before all of them. -/
theorem reported (rs : List Round) :
    ∀ (last : Option Nat) {r : Round} {d : Cursor}, r ∈ rs → r.attempt.result = some d →
      ⟨r.start.offset, d.offset⟩ ∈ spansOf last rs ∨
        (r.consumes = false ∧
          (last = some d.offset ∨ ∃ s ∈ spansOf last rs, s.start < s.stop ∧ s.stop = d.offset)) := by
  induction rs with
  | nil => intro last r d hr; cases hr
  | cons r₀ rs ih =>
    intro last r d hr hd
    rw [spansOf]
    rcases List.mem_cons.1 hr with rfl | hr
    · by_cases hout : r.consumes = false ∧ last = some d.offset
      · exact .inr ⟨hout.1, .inl hout.2⟩
      · have hspan : r.span? last = some ⟨r.start.offset, d.offset⟩ := by
          have hif : ¬((!r.consumes && last == some d.offset) = true) := by simpa using hout
          rw [span?, hd, Option.bind_some, if_neg hif]
        exact .inl (List.mem_append_left _ (by simp [hspan]))
    · rcases ih (r₀.last last) hr hd with hs | ⟨hc, hlast | ⟨s, hs, hlt, hstop⟩⟩
      · exact .inl (List.mem_append_right _ hs)
      · refine .inr ⟨hc, ?_⟩
        unfold Round.last at hlast
        split at hlast
        · next hc₀ =>
          -- the match of the first round is the one that ended there
          obtain ⟨e, he, ho⟩ := Option.map_eq_some_iff.1 hlast
          have hlt := (r₀.consumes_iff he).1 hc₀
          refine .inr ⟨⟨r₀.start.offset, e.offset⟩, List.mem_append_left _ ?_, hlt, ho⟩
          simp [span?, he, hc₀]
        · exact .inl hlast
      · exact .inr ⟨hc, .inr ⟨s, List.mem_append_right _ hs, hlt, hstop⟩⟩

end Round

namespace Matcher

variable {m : Matcher} {levels : Nat} {text : List Char}

/-- Where the start expression succeeds, its match is reported, or it is empty where the last match ended that consumed
something. -/
theorem Begins.reported {q e : Cursor} (h : m.Begins levels text q) (he : m.tried levels (m.skip levels q).1 = some e) :
    ⟨(m.skip levels q).1.offset, e.offset⟩ ∈ (m.findAll levels text).spans ∨
      (e.offset = (m.skip levels q).1.offset ∧
        (lastConsuming? (m.findAll levels text).spans e.offset).map (·.stop) = some e.offset) := by
  have hchain := (m.findAll_wellPlaced levels text).spans_precede
  rw [findAll_eq] at hchain ⊢
  rcases Round.reported _ none (begins_iff.1 h) he with hs | ⟨hc, hlast | ⟨s, hs, hlt, hstop⟩⟩
  · exact .inl hs
  · cases hlast
  · have hle : (m.skip levels q).1.offset ≤ e.offset := (m.round_forward levels q e he).le
    have hge : e.offset ≤ (m.skip levels q).1.offset := by
      rw [← Bool.not_eq_true, Round.consumes_iff _ he] at hc
      exact Nat.le_of_not_lt hc
    refine .inr ⟨Nat.le_antisymm hge hle, ?_⟩
    rw [← hstop, lastConsuming?_stop hchain hs hlt, Option.map_some]

/-- A search accounts for every place of a text. Each match is what the start expression comes to at a place where it is
tried. And each place lies in a match or is the start of one, or is skipped in a round, or is a place where the start
expression is tried and fails, or is empty where the last match ended that consumed something. -/
theorem findAll_covers (m : Matcher) (levels : Nat) (text : List Char) :
    let spans := (m.findAll levels text).spans
    (∀ s ∈ spans, ∃ q, m.Begins levels text q ∧ (m.skip levels q).1.offset = s.start ∧
      (m.tried levels (m.skip levels q).1).map (·.offset) = some s.stop) ∧
    ∀ p, Boundary text p →
      (∃ s ∈ spans, p = s.start ∨ (s.start ≤ p ∧ p < s.stop)) ∨
      (∃ q, m.Begins levels text q ∧ q.offset ≤ p ∧ p < (m.skip levels q).1.offset) ∨
      ∃ q, m.Begins levels text q ∧ (m.skip levels q).1.offset = p ∧
        (m.tried levels (m.skip levels q).1 = none ∨
          ((m.tried levels (m.skip levels q).1).map (·.offset) = some p ∧
            (lastConsuming? spans p).map (·.stop) = some p)) := by
  refine ⟨fun s hs => ?_, fun p hp => ?_⟩
  · rw [findAll_eq] at hs
    obtain ⟨r, hr, d, hd, rfl⟩ := Round.mem_spansOf _ hs
    obtain ⟨-, hround⟩ := m.mem_rounds levels hr
    rw [hround] at hr hd ⊢
    exact ⟨r.place, begins_iff.2 hr, rfl, congrArg (Option.map (·.offset)) hd⟩
  · obtain ⟨d, hd, rfl⟩ := Cursor.exists_in_of_boundary hp
    obtain ⟨q, hq, hqd, hnext⟩ := m.exists_begins levels hd
    rcases place_cases hqd hnext with hlt | heq | ⟨e, he, hgt, hlt⟩
    · exact .inr (.inl ⟨q, hq, hqd.le, hlt⟩)
    · cases he : m.tried levels (m.skip levels q).1 with
      | none => exact .inr (.inr ⟨q, hq, heq.symm, .inl he⟩)
      | some e =>
        rcases hq.reported he with hs | ⟨hempty, hlast⟩
        · exact .inl ⟨_, hs, .inl heq⟩
        · rw [hempty, ← heq] at hlast
          exact .inr (.inr ⟨q, hq, heq.symm, .inr ⟨by rw [he, Option.map_some, hempty, heq], hlast⟩⟩)
    · rcases hq.reported he with hs | ⟨hempty, -⟩
      · exact .inl ⟨_, hs, .inr ⟨Nat.le_of_lt hgt, hlt⟩⟩
      · omega

end Matcher

/-- Any number of letters `a`, with marked characters skipped. -/
def Grammar.letters : Grammar :=
  ({ start := (Expr.literal ['a']).zeroOrMore } : Grammar).ignore (.all [.literal ['#'], .any])

/-- Each of the six places is accounted for: the last is empty where the third match ended, and two were skipped. -/
theorem Grammar.letters_findAll_covers : ∃ m, letters.compile = .ok m ∧
    (m.findAll Matcher.maxNesting "a#xba".toList).spans = [⟨0, 1⟩, ⟨3, 3⟩, ⟨4, 5⟩] ∧ Boundary "a#xba".toList 5 ∧
    ((∃ q, m.Begins Matcher.maxNesting "a#xba".toList q ∧ q.offset ≤ 5 ∧ 5 < (m.skip Matcher.maxNesting q).1.offset) ∨
      ∃ q, m.Begins Matcher.maxNesting "a#xba".toList q ∧ (m.skip Matcher.maxNesting q).1.offset = 5 ∧
        (m.tried Matcher.maxNesting (m.skip Matcher.maxNesting q).1 = none ∨
          ((m.tried Matcher.maxNesting (m.skip Matcher.maxNesting q).1).map (·.offset) = some 5 ∧
            (lastConsuming? [⟨0, 1⟩, ⟨3, 3⟩, ⟨4, 5⟩] 5).map (·.stop) = some 5))) := by
  have h : letters.compile.toOption.map (fun m => (m.findAll Matcher.maxNesting "a#xba".toList).spans) =
      some [⟨0, 1⟩, ⟨3, 3⟩, ⟨4, 5⟩] := by decide +kernel
  obtain ⟨m, hm, hspans⟩ := toOption_map_ok h
  have hplace : Boundary "a#xba".toList 5 := ⟨"a#xba".toList, List.prefix_rfl, by decide⟩
  have hcovers := (m.findAll_covers Matcher.maxNesting "a#xba".toList).2 5 hplace
  rw [hspans] at hcovers
  exact ⟨m, hm, hspans, hplace, hcovers.resolve_left (by decide)⟩

end PatternLint
