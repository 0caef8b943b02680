import PatternLint.Grammar.Parse
import PatternLint.Proofs.Regex.Search
/-!
# Trying an expression goes forward

Whatever a grammar does, it never goes back and never leaves the text: an expression that succeeds reaches the place
it leads to (`Matcher.parse_forward`), and so does skipping (`Matcher.skip_reaches`). Hence the budgets of the
two loops are never used up, and `Repeats` and `SkipsTo` describe the loops without them.
-/
namespace PatternLint

namespace Attempt

variable (a : Attempt) (cut : Bool)

@[simp] theorem after_false : a.after false = a := by simp [after]

@[simp] theorem after_result : (a.after cut).result = a.result := rfl

@[simp] theorem after_cutOff : (a.after cut).cutOff = (cut || a.cutOff) := rfl

@[simp] theorem after_after (cut' : Bool) : (a.after cut).after cut' = a.after (cut' || cut) := by
  simp [after, Bool.or_assoc]

/-- The place an attempt leads to, if it succeeds, is not before `c`. -/
def Forward (a : Attempt) (c : Cursor) : Prop := ∀ d, a.result = some d → c.Reaches d

end Attempt

/-! ## Repetition

`Repeats` is the repetition without a budget: its constructors are the ways in which a round can go. -/

section Repeat
variable (p : Cursor → Attempt) (min : Nat) (max : Option Nat)

/-- What comes of repeating from a place where `p` has succeeded `count` times. -/
inductive Repeats : Nat → Cursor → Attempt → Prop
  | full {count : Nat} {c : Cursor} : max.any (· ≤ count) = true →
      Repeats count c ⟨if min ≤ count then some c else none, false⟩
  | stop {count : Nat} {c : Cursor} {cut : Bool} : max.any (· ≤ count) = false → p c = ⟨none, cut⟩ →
      Repeats count c ⟨if min ≤ count then some c else none, cut⟩
  | idle {count : Nat} {c d : Cursor} {cut : Bool} : max.any (· ≤ count) = false → p c = ⟨some d, cut⟩ →
      d.offset = c.offset → Repeats count c ⟨some c, cut⟩
  | more {count : Nat} {c d : Cursor} {cut : Bool} {a : Attempt} : max.any (· ≤ count) = false →
      p c = ⟨some d, cut⟩ → d.offset ≠ c.offset → Repeats (count + 1) d a → Repeats count c (a.after cut)

variable {p min max}

/-- There is one way only in which a repetition can go. -/
theorem Repeats.unique {count : Nat} {c : Cursor} {a b : Attempt} (h : Repeats p min max count c a)
    (h' : Repeats p min max count c b) : a = b := by
  induction h generalizing b with
  | full hf => cases h' <;> simp_all
  | stop hf hp => cases h' <;> simp_all
  | idle hf hp ho => cases h' <;> simp_all
  | more hf hp ho _ ih =>
    cases h' with
    | full hf' => simp_all
    | stop _ hp' => simp_all
    | idle _ hp' ho' => simp_all
    | more _ hp' _ hr =>
      rw [hp] at hp'
      cases hp'
      rw [ih hr]

/-- The budget is never used up: every round but the last consumes a character at least. -/
theorem repeatFrom_repeats (hp : ∀ c, (p c).Forward c) (budget : List Char) :
    ∀ (count : Nat) (cutOff : Bool) (c : Cursor), c.rest.length ≤ budget.length →
      ∃ a, Repeats p min max count c a ∧ repeatFrom p min max count cutOff c budget = a.after cutOff := by
  induction budget with
  | nil =>
    intro count cutOff c hb
    unfold repeatFrom
    split
    · next hf => exact ⟨_, .full hf, by simp [Attempt.after]⟩
    · next hf =>
      have hf : max.any (· ≤ count) = false := by simpa using hf
      split
      · next cut hpc => exact ⟨_, .stop hf hpc, by simp [Attempt.after]⟩
      · next d cut hpc =>
        split
        · next ho => exact ⟨_, .idle hf hpc ho, by simp [Attempt.after]⟩
        · next ho =>
          -- nothing is left to consume
          have := (hp c d (by rw [hpc])).length_lt ho
          simp only [List.length_nil] at hb
          omega
  | cons x budget ih =>
    intro count cutOff c hb
    unfold repeatFrom
    split
    · next hf => exact ⟨_, .full hf, by simp [Attempt.after]⟩
    · next hf =>
      have hf : max.any (· ≤ count) = false := by simpa using hf
      split
      · next cut hpc => exact ⟨_, .stop hf hpc, by simp [Attempt.after]⟩
      · next d cut hpc =>
        split
        · next ho => exact ⟨_, .idle hf hpc ho, by simp [Attempt.after]⟩
        · next ho =>
          have hlen := (hp c d (by rw [hpc])).length_lt ho
          simp only [List.length_cons] at hb
          obtain ⟨a, ha, he⟩ := ih (count + 1) (cutOff || cut) d (by omega)
          exact ⟨a.after cut, .more hf hpc ho ha, by rw [Attempt.after_after, ← he]⟩

theorem Repeats.forward (hp : ∀ c, (p c).Forward c) {count : Nat} {c : Cursor} {a : Attempt}
    (h : Repeats p min max count c a) : a.Forward c := by
  induction h with
  | full hf =>
    intro d h
    simp only [Option.ite_none_right_eq_some, Option.some.injEq] at h
    rw [← h.2]
    exact .refl _
  | stop hf hpc =>
    intro d h
    simp only [Option.ite_none_right_eq_some, Option.some.injEq] at h
    rw [← h.2]
    exact .refl _
  | idle hf hpc ho =>
    intro d h
    cases h
    exact .refl _
  | more hf hpc ho _ ih =>
    intro d h
    exact (hp _ _ (by rw [hpc])).trans (ih d h)

end Repeat

namespace Expr

variable {τ ρ : Type} {run : τ → Cursor → Option Cursor} {lead : Cursor → Cursor × Bool} {call : ρ → Cursor → Attempt}

/-- A sequence goes as its first part goes, or as its second part goes from there. -/
theorem parse_seq (a b : Expr τ ρ) (c : Cursor) :
    ((a.parse run lead call c).result = none ∧ (seq a b).parse run lead call c = a.parse run lead call c) ∨
      ∃ d, (a.parse run lead call c).result = some d ∧
        (seq a b).parse run lead call c = (b.parse run lead call d).after (a.parse run lead call c).cutOff := by
  rw [parse]
  cases a.parse run lead call c with
  | mk r cut =>
    cases r with
    | none => exact .inl ⟨rfl, rfl⟩
    | some d => exact .inr ⟨d, rfl, rfl⟩

/-- A choice goes as its first part goes, or as its second part goes from the same place. -/
theorem parse_choice (a b : Expr τ ρ) (c : Cursor) :
    (∃ d, (a.parse run lead call c).result = some d ∧ (choice a b).parse run lead call c = a.parse run lead call c) ∨
      ((a.parse run lead call c).result = none ∧
        (choice a b).parse run lead call c = (b.parse run lead call c).after (a.parse run lead call c).cutOff) := by
  rw [parse]
  cases a.parse run lead call c with
  | mk r cut =>
    cases r with
    | none => exact .inr ⟨rfl, rfl⟩
    | some d => exact .inl ⟨d, rfl, rfl⟩

/-- A repetition that an expression makes, without its budget. -/
theorem parse_rounds {e : Expr τ ρ} (he : ∀ c, (e.parse run lead call c).Forward c) (min : Nat) (max : Option Nat)
    (c : Cursor) : Repeats (e.parse run lead call) min max 0 c ((rounds e min max).parse run lead call c) := by
  obtain ⟨a, ha, hr⟩ := repeatFrom_repeats he c.rest 0 false c (Nat.le_refl _)
  rw [parse, hr, Attempt.after_false]
  exact ha

theorem parse_forward (hrun : ∀ t c d, run t c = some d → Cursor.Reaches c d)
    (hlead : ∀ c : Cursor, c.Reaches (lead c).1) (hcall : ∀ r c, (call r c).Forward c) (e : Expr τ ρ) :
    ∀ c, (e.parse run lead call c).Forward c := by
  induction e with
  | empty => intro c d h; cases h; exact .refl c
  | never => intro c d h; cases h
  | literal word => intro c d h; exact (hlead c).trans (Cursor.strip?_reaches h)
  | terminal t => intro c d h; exact (hlead c).trans (hrun t _ d h)
  | any => intro c d h; exact (hlead c).trans (Cursor.next?_reaches h)
  | seq a b iha ihb =>
    intro c d h
    rcases parse_seq a b c with ⟨-, he⟩ | ⟨mid, ha, he⟩
    · rw [he] at h
      exact iha c d h
    · rw [he] at h
      exact (iha c mid ha).trans (ihb mid d h)
  | choice a b iha ihb =>
    intro c d h
    rcases parse_choice a b c with ⟨-, -, he⟩ | ⟨-, he⟩
    · rw [he] at h
      exact iha c d h
    · rw [he] at h
      exact ihb c d h
  | rounds e min max ih => intro c; exact (parse_rounds ih min max c).forward ih
  | ahead e ih =>
    intro c d h
    simp only [parse, Option.map_eq_some_iff] at h
    obtain ⟨_, -, rfl⟩ := h
    exact .refl c
  | notAhead e ih =>
    intro c d h
    simp only [parse, Option.ite_none_left_eq_some, Option.some.injEq] at h
    rw [← h.2]
    exact .refl c
  | rule r => intro c; exact hcall r c

end Expr

namespace Matcher

theorem runTerminal_reaches (p : Regex.Program) (c d : Cursor) (h : runTerminal p c = some d) : c.Reaches d := by
  obtain ⟨m, hm, rfl⟩ := Option.map_eq_some_iff.1 h
  exact (Regex.Program.find?_reaches hm : c.alone.Reaches m.stop)

/-- A terminal matches as it would in a text that begins where it is tried. -/
theorem runTerminal_eq (p : Regex.Program) (c : Cursor) :
    runTerminal p c = (p.find? (.start c.rest)).map fun f => (f.shift c.offset).stop := by
  have hshift : p.find? c.alone = (p.find? (.start c.rest)).map (Regex.Found.shift c.offset) :=
    p.find?_shift c.offset (.start c.rest)
  rw [runTerminal, hshift, Option.map_map]
  rfl

variable (m : Matcher)

/-- Whatever is skipped before terminals, an expression that succeeds leads forward. -/
theorem parse_forward {lead : Cursor → Cursor × Bool} (hlead : ∀ c : Cursor, c.Reaches (lead c).1) (levels : Nat) :
    ∀ (e : Node m.size) (c : Cursor), (m.parse lead levels e c).Forward c := by
  induction levels with
  | zero => exact Expr.parse_forward runTerminal_reaches hlead fun _ _ _ h => by cases h
  | succ levels ih => exact Expr.parse_forward runTerminal_reaches hlead fun i => ih (m.rules.get i)

theorem parseBare_forward (levels : Nat) (e : Node m.size) (c : Cursor) : (m.parseBare levels e c).Forward c :=
  m.parse_forward (fun c => .refl c) levels e c

/-! ## Skipping -/

/-- Steps over one ignored region, if it stands at the place reached. -/
def skipRegion (levels : Nat) (s : Cursor × Bool) (e : Node m.size) : Cursor × Bool :=
  ((m.parseBare levels e s.1).result.getD s.1, s.2 || (m.parseBare levels e s.1).cutOff)

theorem skipRegions_eq (levels : Nat) (c : Cursor) :
    m.skipRegions levels c = m.ignored.foldl (m.skipRegion levels) (c, false) := rfl

theorem foldl_skipRegion_reaches (levels : Nat) (es : List (Node m.size)) : ∀ s : Cursor × Bool,
    s.1.Reaches (es.foldl (m.skipRegion levels) s).1 := by
  induction es with
  | nil => intro s; exact .refl _
  | cons e es ih =>
    intro s
    refine Cursor.Reaches.trans ?_ (ih _)
    cases h : (m.parseBare levels e s.1).result with
    | none => simpa [skipRegion, h] using Cursor.Reaches.refl s.1
    | some d => simpa [skipRegion, h] using m.parseBare_forward levels e s.1 d h

theorem skipOnce_reaches (levels : Nat) (c : Cursor) : c.Reaches (m.skipOnce levels c).1 := by
  rw [skipOnce, skipRegions_eq]
  refine Cursor.Reaches.trans ?_ (m.foldl_skipRegion_reaches levels m.ignored _)
  split
  · exact c.dropWhile_reaches isBlank
  · exact .refl c

/-- Skipping without a budget: pass after pass, until one moves nothing. -/
inductive SkipsTo (levels : Nat) : Cursor → Cursor × Bool → Prop
  | done {c : Cursor} : (m.skipOnce levels c).1.offset = c.offset → SkipsTo levels c (m.skipOnce levels c)
  | more {c d : Cursor} {cut : Bool} : (m.skipOnce levels c).1.offset ≠ c.offset →
      SkipsTo levels (m.skipOnce levels c).1 (d, cut) → SkipsTo levels c (d, (m.skipOnce levels c).2 || cut)

theorem skipFrom_skipsTo (levels : Nat) (budget : List Char) : ∀ (cutOff : Bool) (c : Cursor),
    c.rest.length ≤ budget.length →
      ∃ s, m.SkipsTo levels c s ∧ m.skipFrom levels cutOff c budget = (s.1, cutOff || s.2) := by
  induction budget with
  | nil =>
    intro cutOff c hb
    unfold skipFrom
    simp only
    split
    · next ho => exact ⟨_, .done ho, rfl⟩
    · next ho =>
      have := (m.skipOnce_reaches levels c).length_lt ho
      simp only [List.length_nil] at hb
      omega
  | cons x budget ih =>
    intro cutOff c hb
    unfold skipFrom
    simp only
    split
    · next ho => exact ⟨_, .done ho, rfl⟩
    · next ho =>
      have hlen := (m.skipOnce_reaches levels c).length_lt ho
      simp only [List.length_cons] at hb
      obtain ⟨s, hs, he⟩ := ih (cutOff || (m.skipOnce levels c).2) (m.skipOnce levels c).1 (by omega)
      exact ⟨_, .more ho hs, by rw [he, Bool.or_assoc]⟩

theorem skip_skipsTo (levels : Nat) (c : Cursor) : m.SkipsTo levels c (m.skip levels c) := by
  obtain ⟨s, hs, he⟩ := m.skipFrom_skipsTo levels c.rest false c (Nat.le_refl _)
  rw [skip, he, Bool.false_or]
  exact hs

/-- Skipping goes forward. -/
theorem skip_reaches (levels : Nat) (c : Cursor) : c.Reaches (m.skip levels c).1 := by
  have h := m.skip_skipsTo levels c
  generalize m.skip levels c = s at h
  induction h with
  | done => exact m.skipOnce_reaches levels _
  | more _ _ ih => exact (m.skipOnce_reaches levels _).trans ih

theorem parseSkipping_forward (levels : Nat) (e : Node m.size) (c : Cursor) : (m.parseSkipping levels e c).Forward c :=
  m.parse_forward (m.skip_reaches levels) levels e c

/-- What happens before a terminal: blanks and ignored regions are skipped, or nothing is. -/
def lead (skipping : Bool) (levels : Nat) (c : Cursor) : Cursor × Bool := if skipping then m.skip levels c else (c, false)

theorem lead_reaches (skipping : Bool) (levels : Nat) (c : Cursor) : c.Reaches (m.lead skipping levels c).1 := by
  cases skipping with
  | false => exact .refl c
  | true => exact m.skip_reaches levels c

end Matcher

end PatternLint
