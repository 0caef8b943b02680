import PatternLint.Proofs.Grammar.Coverage
import PatternLint.Proofs.Grammar.SamePlace
/-!
# The loops of a grammar

Repeating an expression, skipping and searching are loops. Each is given here by its body alone, which either goes on
with another state or ends the loop with a result, and `Breaks` runs a body over and over, without a budget, and counts
how often. All three come to an end that way, with the results that the functions give, after one run more at most than
there are characters left: `Repeats.breaks`, `SkipsTo.breaks` and `searchFrom_breaks`.
-/
namespace PatternLint

theorem length_le_byteLength (text : List Char) : text.length ≤ byteLength text := by
  induction text with
  | nil => rfl
  | cons x text ih =>
    have := Char.utf8Size_pos x
    simp only [List.length_cons, byteLength_cons]
    omega

/-- There are no more characters left than bytes. -/
theorem Cursor.In.length_rest_le {c : Cursor} {text : List Char} (h : c.In text) :
    c.rest.length ≤ byteLength text - c.offset := by
  obtain ⟨mid, hrest, hoffset⟩ := h
  simp only [start, Nat.zero_add] at hrest hoffset
  rw [hrest, byteLength_append, hoffset, Nat.add_sub_cancel_left]
  exact length_le_byteLength c.rest

section Body
variable {σ ρ : Type} (body : σ → σ ⊕ ρ)

/-- From a state on, the body is run so many times, and then the loop ends with a result. -/
inductive Breaks : σ → Nat → ρ → Prop
  | done {x : σ} {r : ρ} : body x = .inr r → Breaks x 1 r
  | again {x y : σ} {n : Nat} {r : ρ} : body x = .inl y → Breaks y n r → Breaks x (n + 1) r

/-- A loop that begins with the first state comes to the second. -/
def Visits (x y : σ) : Prop := Relation.ReflTransGen (fun s t => body s = .inl t) x y

variable {body} {x y z : σ} {r : ρ}

theorem visits_of_inr (h : body x = .inr r) : Visits body x y ↔ y = x := by
  constructor
  · intro hy
    rcases Relation.ReflTransGen.cases_head hy with rfl | ⟨z, hz, -⟩
    · rfl
    · rw [h] at hz
      cases hz
  · rintro rfl
    exact .refl

theorem visits_of_inl (h : body x = .inl z) : Visits body x y ↔ y = x ∨ Visits body z y := by
  constructor
  · intro hy
    rcases Relation.ReflTransGen.cases_head hy with rfl | ⟨z', hz, hy⟩
    · exact .inl rfl
    · rw [h] at hz
      cases hz
      exact .inr hy
  · rintro (rfl | hy)
    · exact .refl
    · exact .head h hy

end Body

/-! ## Repetition -/

section Repeat
variable (p : Cursor → Attempt) (min : Nat) (max : Option Nat)

/-- The body of a repetition: at a place where `p` has succeeded so many times, it is tried once more. -/
def repeatBody (s : Nat × Cursor) : (Nat × Cursor) ⊕ Option Cursor :=
  if max.any (· ≤ s.1) then .inr (if min ≤ s.1 then some s.2 else none)
  else
    match (p s.2).result with
    | none => .inr (if min ≤ s.1 then some s.2 else none)
    | some d => if d.offset = s.2.offset then .inr (some s.2) else .inl (s.1 + 1, d)

variable {p min max} {count : Nat} {c d : Cursor} {cut : Bool}

theorem repeatBody_full (h : max.any (· ≤ count) = true) :
    repeatBody p min max (count, c) = .inr (if min ≤ count then some c else none) := by
  simp [repeatBody, h]

theorem repeatBody_stop (h : max.any (· ≤ count) = false) (hp : p c = ⟨none, cut⟩) :
    repeatBody p min max (count, c) = .inr (if min ≤ count then some c else none) := by
  simp [repeatBody, h, hp]

theorem repeatBody_idle (h : max.any (· ≤ count) = false) (hp : p c = ⟨some d, cut⟩) (ho : d.offset = c.offset) :
    repeatBody p min max (count, c) = .inr (some c) := by
  simp [repeatBody, h, hp, ho]

theorem repeatBody_more (h : max.any (· ≤ count) = false) (hp : p c = ⟨some d, cut⟩) (ho : d.offset ≠ c.offset) :
    repeatBody p min max (count, c) = .inl (count + 1, d) := by
  simp [repeatBody, h, hp, ho]

/-- Every run of the body but the last consumes a character at least. -/
theorem Repeats.breaks (hp : ∀ c, (p c).Forward c) {a : Attempt} (h : Repeats p min max count c a) :
    ∃ n, Breaks (repeatBody p min max) (count, c) n a.result ∧ n ≤ c.rest.length + 1 := by
  induction h with
  | full hf => exact ⟨1, .done (repeatBody_full hf), by omega⟩
  | stop hf hpc => exact ⟨1, .done (repeatBody_stop hf hpc), by omega⟩
  | idle hf hpc ho => exact ⟨1, .done (repeatBody_idle hf hpc ho), by omega⟩
  | @more count c d cut a hf hpc ho _ ih =>
    obtain ⟨n, hn, hle⟩ := ih
    have hlt := (hp c d (by rw [hpc])).length_lt ho
    exact ⟨n + 1, .again (repeatBody_more hf hpc ho) hn, by omega⟩

/-- A repetition is cut off exactly if one of its rounds is. -/
theorem Repeats.cutOff_iff {a : Attempt} (h : Repeats p min max count c a) : a.cutOff = true ↔
    ∃ k d, Visits (repeatBody p min max) (count, c) (k, d) ∧ max.any (· ≤ k) = false ∧ (p d).cutOff = true := by
  induction h with
  | @full count c hf =>
    simp only [visits_of_inr (repeatBody_full hf), Prod.mk.injEq]
    constructor
    · intro h; cases h
    · rintro ⟨_, _, ⟨rfl, rfl⟩, hk, -⟩
      rw [hf] at hk
      cases hk
  | @stop count c cut hf hpc =>
    simp only [visits_of_inr (repeatBody_stop hf hpc), Prod.mk.injEq]
    constructor
    · intro h; exact ⟨count, c, ⟨rfl, rfl⟩, hf, by rw [hpc]; exact h⟩
    · rintro ⟨_, _, ⟨rfl, rfl⟩, -, hcut⟩
      rwa [hpc] at hcut
  | @idle count c d cut hf hpc ho =>
    simp only [visits_of_inr (repeatBody_idle hf hpc ho), Prod.mk.injEq]
    constructor
    · intro h; exact ⟨count, c, ⟨rfl, rfl⟩, hf, by rw [hpc]; exact h⟩
    · rintro ⟨_, _, ⟨rfl, rfl⟩, -, hcut⟩
      rwa [hpc] at hcut
  | @more count c d cut a hf hpc ho _ ih =>
    simp only [visits_of_inl (repeatBody_more hf hpc ho), Prod.mk.injEq]
    rw [Attempt.after_cutOff, Bool.or_eq_true_iff, ih]
    constructor
    · rintro (hcut | ⟨k, q, hq, hk, hcut⟩)
      · exact ⟨count, c, .inl ⟨rfl, rfl⟩, hf, by rw [hpc]; exact hcut⟩
      · exact ⟨k, q, .inr hq, hk, hcut⟩
    · rintro ⟨k, q, ⟨rfl, rfl⟩ | hq, hk, hcut⟩
      · rw [hpc] at hcut
        exact .inl hcut
      · exact .inr ⟨k, q, hq, hk, hcut⟩

end Repeat

namespace Matcher

variable (m : Matcher) (levels : Nat)

/-! ## Skipping -/

/-- The body of skipping: a pass, after which another is made if it has moved. -/
def pass (c : Cursor) : Cursor ⊕ Cursor :=
  if (m.skipOnce levels c).1.offset = c.offset then .inr (m.skipOnce levels c).1 else .inl (m.skipOnce levels c).1

variable {m levels}

theorem pass_still {c : Cursor} (h : (m.skipOnce levels c).1.offset = c.offset) :
    m.pass levels c = .inr (m.skipOnce levels c).1 := if_pos h

theorem pass_moved {c : Cursor} (h : (m.skipOnce levels c).1.offset ≠ c.offset) :
    m.pass levels c = .inl (m.skipOnce levels c).1 := if_neg h

theorem SkipsTo.breaks {c : Cursor} {s : Cursor × Bool} (h : m.SkipsTo levels c s) :
    ∃ n, Breaks (m.pass levels) c n s.1 ∧ n ≤ c.rest.length + 1 := by
  induction h with
  | done ho => exact ⟨1, .done (pass_still ho), by omega⟩
  | @more c d cut ho _ ih =>
    obtain ⟨n, hn, hle⟩ := ih
    have hlt := (m.skipOnce_reaches levels c).length_lt ho
    exact ⟨n + 1, .again (pass_moved ho) hn, by omega⟩

theorem SkipsTo.cutOff_iff {c : Cursor} {s : Cursor × Bool} (h : m.SkipsTo levels c s) :
    s.2 = true ↔ ∃ d, Visits (m.pass levels) c d ∧ (m.skipOnce levels d).2 = true := by
  induction h with
  | done ho => simp only [visits_of_inr (pass_still ho), exists_eq_left]
  | @more c d cut ho _ ih =>
    simp only [visits_of_inl (pass_moved ho), or_and_right, exists_or, exists_eq_left]
    rw [Bool.or_eq_true_iff]
    exact or_congr_right ih

theorem visits_reaches {c d : Cursor} (h : Visits (m.pass levels) c d) : c.Reaches d := by
  induction h with
  | refl => exact .refl c
  | @tail d d' _ hd ih =>
    unfold pass at hd
    split at hd
    · cases hd
    · cases hd
      exact ih.trans (m.skipOnce_reaches levels d)

/-! ## Searching -/

/-- Where a search stands: the place where its next round begins, the end of the last match that consumed something,
and what was found and given up so far, last first. -/
structure Search where
  place : Cursor
  last : Option Nat
  spans : List Span
  abandoned : List Nat

variable (m levels)

/-- The body of a search: a round, in which the start expression is tried once. -/
def searchBody (s : Search) : Search ⊕ Matches :=
  let r := m.round levels s.place
  let spans := (r.span? s.last).toList ++ s.spans
  let abandoned := r.abandoned?.toList ++ s.abandoned
  match r.next? with
  | some next => .inl ⟨next, r.last s.last, spans, abandoned⟩
  | none => .inr ⟨spans.reverse, abandoned.reverse⟩

theorem searchFrom_breaks (budget : List Char) : ∀ s : Search, s.place.rest.length ≤ budget.length →
    ∃ n, Breaks (m.searchBody levels) s n (m.searchFrom levels s.place s.last s.spans s.abandoned budget) ∧
      n ≤ s.place.rest.length + 1 := by
  induction budget with
  | nil =>
    intro s hb
    rw [searchFrom_round]
    cases hn : (m.round levels s.place).next? with
    | none => exact ⟨1, .done (by simp [searchBody, hn, searchOn]), by omega⟩
    | some next =>
      have hlt := length_lt_of_next hn
      simp only [List.length_nil] at hb
      omega
  | cons x budget ih =>
    intro s hb
    rw [searchFrom_round]
    cases hn : (m.round levels s.place).next? with
    | none => exact ⟨1, .done (by simp [searchBody, hn, searchOn]), by omega⟩
    | some next =>
      have hlt := length_lt_of_next hn
      simp only [List.length_cons] at hb
      obtain ⟨n, h, hle⟩ := ih ⟨next, _, _, _⟩ (by simp only; omega)
      refine ⟨n + 1, .again ?_ h, ?_⟩
      · simp [searchBody, hn]
      · simp only at hle
        omega

end Matcher

end PatternLint
