import PatternLint.Proofs.Grammar.Compile
import PatternLint.Proofs.Grammar.Descent
/-!
# Repeating by count

A round that consumes nothing ends a repetition at once and stands for all rounds that are still asked for. The plain
loop, `countedFrom`, goes on instead, and counts. Both come to the same if no more rounds are asked for than are allowed:
a round that consumes nothing can be made again. If more are asked for, the plain loop always fails, but a repetition in
which a round consumes nothing succeeds (`Grammar.threeOfTwo_differs`). A repetition without an upper bound is one with
any bound that the text cannot reach. Main statement: `Matcher.rounds_counted`.
-/
namespace PatternLint

open Attempt

section Repeat
variable (p : Cursor → Attempt) (min : Nat)

/-- Tries `p` up to `left` times more, whether or not it consumes anything, from a place where it has succeeded `count`
times. At least `min` rounds must have succeeded in the end. -/
def countedFrom : (left count : Nat) → (cutOff : Bool) → Cursor → Attempt
  | 0, count, cutOff, c => ⟨if min ≤ count then some c else none, cutOff⟩
  | left + 1, count, cutOff, c =>
    match p c with
    | ⟨none, cut⟩ => ⟨if min ≤ count then some c else none, cutOff || cut⟩
    | ⟨some d, cut⟩ => countedFrom left (count + 1) (cutOff || cut) d

/-- One of the first `left` rounds consumes nothing. -/
inductive Idles : (left : Nat) → Cursor → Prop
  | here {left : Nat} {c d : Cursor} : (p c).result = some d → d.offset = c.offset → Idles (left + 1) c
  | later {left : Nat} {c d : Cursor} : (p c).result = some d → Idles left d → Idles (left + 1) c

variable {p min}

/-- The plain loop fails where it may not make as many rounds as are asked for. -/
theorem countedFrom_of_lt (left : Nat) : ∀ {count : Nat} (cut : Bool) (c : Cursor), count + left < min →
    (countedFrom p min left count cut c).result = none := by
  induction left with
  | zero =>
    intro count cut c h
    exact if_neg (Nat.not_le.2 h)
  | succ left ih =>
    intro count cut c h
    rw [countedFrom]
    cases p c with
    | mk r cut' =>
      cases r with
      | none => exact if_neg (by omega)
      | some d => exact ih _ d (by omega)

/-- A round that consumes nothing can be made as often as is allowed. -/
theorem countedFrom_idle (min : Nat) (hp : Steady p) {c c' : Cursor} {cut' : Bool} (hc : p c = ⟨some c', cut'⟩)
    (hsame : c'.alone = c.alone) (left : Nat) : ∀ (count : Nat) (cut : Bool) (d : Cursor), c.alone = d.alone →
      (countedFrom p min (left + 1) count cut d).alone =
        alone ⟨if min ≤ count + left + 1 then some c else none, cut || cut'⟩ := by
  induction left with
  | zero =>
    intro count cut d hd
    obtain ⟨d', hpd, hd'⟩ := hp.exists_some hd hc
    rw [countedFrom, hpd]
    exact alone_eq_iff.2 ⟨map_alone_stay (hd'.symm.trans hsame) _, rfl⟩
  | succ left ih =>
    intro count cut d hd
    obtain ⟨d', hpd, hd'⟩ := hp.exists_some hd hc
    rw [countedFrom, hpd]
    simp only
    rw [ih (count + 1) (cut || cut') d' (hsame.symm.trans hd'), Bool.or_assoc, Bool.or_self,
      show count + 1 + left + 1 = count + (left + 1) + 1 by omega]

/-- A repetition in which a round consumes nothing succeeds. -/
theorem Repeats.isSome_of_idles {bound count : Nat} {c : Cursor} {a : Attempt}
    (h : Repeats p min (some bound) count c a) : ∀ left, count + left = bound → Idles p left c →
      a.result.isSome = true := by
  induction h with
  | @full count c hm =>
    intro left hb hidle
    simp only [Option.any_some, decide_eq_true_eq] at hm
    obtain rfl : left = 0 := by omega
    cases hidle
  | @stop count c cut hm hpc =>
    intro left hb hidle
    cases hidle with
    | here hd _ | later hd _ =>
      rw [hpc] at hd
      cases hd
  | idle _ _ _ => intro left _ _; rfl
  | @more count c c' cut a hm hpc ho _ ih =>
    intro left hb hidle
    cases hidle with
    | here hd hstill =>
      rw [hpc] at hd
      cases hd
      exact absurd hstill ho
    | later hd hidle =>
      rw [hpc] at hd
      cases hd
      exact ih _ (by omega) hidle

section Bound
variable (hf : ∀ c, (p c).Forward c)
include hf

/-- The plain loop is cut off where the repetition is. It also comes to the same place, unless a round that consumes
nothing stands for more rounds than are allowed. -/
theorem Repeats.counted (hp : Steady p) {bound count : Nat} {c : Cursor} {a : Attempt}
    (h : Repeats p min (some bound) count c a) : ∀ (left : Nat) (cut : Bool) (d : Cursor), count + left = bound →
      c.alone = d.alone → (countedFrom p min left count cut d).cutOff = (cut || a.cutOff) ∧
        ((Idles p left d → min ≤ bound) →
          (countedFrom p min left count cut d).result.map Cursor.alone = a.result.map Cursor.alone) := by
  have hleft : ∀ {count left : Nat}, (some bound).any (· ≤ count) = false → count + left = bound →
      ∃ k, left = k + 1 := by
    intro count left hm hb
    simp only [Option.any_some, decide_eq_false_iff_not] at hm
    exact ⟨left - 1, by omega⟩
  induction h with
  | @full count c hm =>
    intro left cut d hb hd
    simp only [Option.any_some, decide_eq_true_eq] at hm
    obtain rfl : left = 0 := by omega
    exact ⟨by simp [countedFrom], fun _ => map_alone_stay hd.symm _⟩
  | @stop count c cut' hm hpc =>
    intro left cut d hb hd
    obtain ⟨k, rfl⟩ := hleft hm hb
    rw [countedFrom, hp.eq_none hd hpc]
    exact ⟨rfl, fun _ => map_alone_stay hd.symm _⟩
  | @idle count c c' cut' hm hpc ho =>
    intro left cut d hb hd
    obtain ⟨k, rfl⟩ := hleft hm hb
    have hsame : c'.alone = c.alone := (hf c c' (by rw [hpc])).alone_eq ho
    obtain ⟨hres, hcut⟩ := alone_eq_iff.1 (countedFrom_idle min hp hpc hsame k count cut d hd)
    refine ⟨hcut, fun hidle => ?_⟩
    obtain ⟨d', hpd, hd'⟩ := hp.exists_some hd hpc
    have hle : min ≤ count + k + 1 := by
      have := hidle (.here (by rw [hpd]) ((Cursor.offset_eq_congr hd hd').1 ho))
      omega
    rw [hres, if_pos hle]
  | @more count c c' cut' a hm hpc ho _ ih =>
    intro left cut d hb hd
    obtain ⟨k, rfl⟩ := hleft hm hb
    obtain ⟨d', hpd, hd'⟩ := hp.exists_some hd hpc
    obtain ⟨hcut, hres⟩ := ih k (cut || cut') d' (by omega) hd'
    rw [countedFrom, hpd]
    exact ⟨by rw [hcut, after_cutOff, Bool.or_assoc], fun hidle => hres fun h => hidle (.later (by rw [hpd]) h)⟩

/-- A bound that the text cannot reach is none. -/
theorem Repeats.bounded {count : Nat} {c : Cursor} {a : Attempt} (h : Repeats p min none count c a) {bound : Nat} :
    count + c.rest.length < bound → Repeats p min (some bound) count c a := by
  have hbelow : ∀ {count length : Nat}, count + length < bound → (some bound).any (· ≤ count) = false := by
    intro count length h
    simp only [Option.any_some, decide_eq_false_iff_not]
    omega
  induction h with
  | full hm => cases hm
  | stop _ hpc => intro hb; exact .stop (hbelow hb) hpc
  | idle _ hpc ho => intro hb; exact .idle (hbelow hb) hpc ho
  | @more count c d cut a _ hpc ho _ ih =>
    intro hb
    have hlt := (hf c d (by rw [hpc])).length_lt ho
    exact .more (hbelow hb) hpc ho (ih (by omega))

end Bound

end Repeat

namespace Matcher

variable (m : Matcher)

/-- The plain loop in the place of a repetition, so many calls deep. -/
def tryCounted (skipping : Bool) (depth : Nat) (e : Node m.size) (min bound : Nat) (c : Cursor) : Attempt :=
  if depth ≤ maxNesting then countedFrom (m.tryAt skipping depth e) min bound 0 false c else ⟨none, true⟩

/-- For every expression, with any bounds on its rounds, at every place of a text, with and without skipping, and
however deep: a repetition with an upper bound is cut off where the plain loop is. It comes to the same place too, unless
more rounds are asked for than are allowed and one of those allowed consumes nothing; then it succeeds, and the plain
loop fails. A repetition without an upper bound is one with any bound above the length of the text. -/
theorem rounds_counted (text : List Char) (skipping : Bool) (depth : Nat) (e : Node m.size) (min : Nat) (c : Cursor)
    (hc : c.In text) :
    (∀ bound, let a := m.tryAt skipping depth (.rounds e min (some bound)) c
      let b := m.tryCounted skipping depth e min bound c
      a.cutOff = b.cutOff ∧
        (¬(bound < min ∧ Idles (m.tryAt skipping depth e) bound c) →
          a.result.map (·.offset) = b.result.map (·.offset)) ∧
        (bound < min ∧ Idles (m.tryAt skipping depth e) bound c → a.result.isSome = true ∧ b.result = none)) ∧
    ∀ bound, byteLength text + 1 ≤ bound →
      m.tryAt skipping depth (.rounds e min none) c = m.tryAt skipping depth (.rounds e min (some bound)) c := by
  by_cases hd : depth ≤ maxNesting
  · have hf := m.tryAt_forward skipping depth e
    refine ⟨fun bound => ?_, fun bound hb => ?_⟩
    · have hr := m.tryAt_rounds skipping hd e min (some bound) c
      obtain ⟨hcut, hres⟩ := hr.counted hf (m.tryAt_steady skipping depth e) bound false c (Nat.zero_add _) rfl
      rw [Bool.false_or] at hcut
      simp only [tryCounted, if_pos hd]
      refine ⟨hcut.symm, ?_, ?_⟩
      · intro h
        have hsame := hres fun hidle => Nat.le_of_not_lt fun hlt => h ⟨hlt, hidle⟩
        have hoffset := congrArg (Option.map (·.offset)) hsame
        rw [Option.map_map, Option.map_map] at hoffset
        exact hoffset.symm
      · rintro ⟨hlt, hidle⟩
        exact ⟨hr.isSome_of_idles bound (Nat.zero_add _) hidle, countedFrom_of_lt bound false c (by omega)⟩
    · have hlength := hc.length_rest_le
      have hr := (m.tryAt_rounds skipping hd e min none c).bounded hf (show 0 + c.rest.length < bound by omega)
      exact hr.unique (m.tryAt_rounds skipping hd e min (some bound) c)
  · have hdeep := tryAt_of_lt m skipping (Nat.lt_of_not_le hd)
    refine ⟨fun bound => ?_, fun bound _ => by rw [hdeep, hdeep]⟩
    simp only [tryCounted, if_neg hd, hdeep]
    refine ⟨trivial, fun _ => trivial, ?_⟩
    rintro ⟨-, hidle⟩
    -- no round is made at all
    cases hidle with
    | here h _ | later h _ =>
      rw [hdeep] at h
      cases h

end Matcher

namespace Grammar

/-- A letter or nothing. -/
def letterOrNone {τ ρ : Type} : Expr τ ρ := .choice (.literal ['é']) (.literal [])

/-- Two or three times a letter or nothing. -/
def sparse : Grammar := { start := .rounds letterOrNone 2 (some 3) }

/-- The second round consumes nothing, and the third is left out. -/
theorem sparse_rounds_counted : ∃ m : Matcher, sparse.compile = .ok m ∧ m.start = .rounds letterOrNone 2 (some 3) ∧
    let c : Cursor := .start "éa".toList
    c.In "éa".toList ∧ Idles (m.tryAt true 0 letterOrNone) 3 c ∧
    (m.tryAt true 0 (.rounds letterOrNone 2 (some 3)) c).result.map (·.offset) =
      (m.tryCounted true 0 letterOrNone 2 3 c).result.map (·.offset) ∧
    m.tryAt true 0 (.rounds letterOrNone 2 none) c = m.tryAt true 0 (.rounds letterOrNone 2 (some 4)) c := by
  have hm : sparse.compile = .ok ⟨0, .rounds letterOrNone 2 (some 3), #v[], [], false⟩ := by with_unfolding_all rfl
  refine ⟨_, hm, rfl, ?_⟩
  intro c
  have hc : c.In "éa".toList := Cursor.start_in _
  have h := Matcher.rounds_counted ⟨0, .rounds letterOrNone 2 (some 3), #v[], [], false⟩ "éa".toList true 0
    letterOrNone 2 c hc
  refine ⟨hc, .later rfl (.here rfl rfl), (h.1 3).2.1 (by omega), h.2 4 (by decide)⟩

/-- Rounds of which three are asked for and two are allowed, and which consume nothing. -/
def threeOfTwo : Grammar := { start := .rounds (.literal []) 3 (some 2) }

/-- The repetition succeeds, and the plain loop fails. -/
theorem threeOfTwo_differs : ∃ m, threeOfTwo.compile = .ok m ∧ ∃ e, m.start = .rounds e 3 (some 2) ∧
    (m.tryAt true 0 (.rounds e 3 (some 2)) (.start ['x'])).result.map (·.offset) = some 0 ∧
    (m.tryCounted true 0 e 3 2 (.start ['x'])).result.map (·.offset) = none ∧
    m.findAll Matcher.maxNesting ['x'] = ⟨[⟨0, 0⟩, ⟨1, 1⟩], []⟩ := by
  have hm : threeOfTwo.compile = .ok ⟨0, .rounds (.literal []) 3 (some 2), #v[], [], false⟩ := by
    with_unfolding_all rfl
  refine ⟨_, hm, _, rfl, ?_, ?_, ?_⟩
  · decide +kernel
  · decide +kernel
  · decide +kernel

end Grammar

end PatternLint
