import PatternLint.Proofs.Regex.Search
/-!
# Matches without a character

A program that matches at the beginning of a text without consuming anything matches the empty text too, unless it
asserts that a word starts there (`find?_nil_isSome`). No other assertion sees at the beginning of a text that something
follows and asks for it.
-/
namespace PatternLint.Regex

/-- Whether the assertion asks for a word character after the beginning of a text. -/
def Assertion.wantsWord : Assertion → Bool
  | word .boundary _ | word .start _ => true
  | _ => false

theorem Assertion.holds_none {a : Assertion} (ha : a.wantsWord = false) {after : Option Char}
    (h : a.holds none after = true) : a.holds none none = true := by
  cases a with
  | textStart | textEnd => rfl
  | lineStart crlf | lineEnd crlf => cases crlf <;> rfl
  | word edge ascii =>
    cases edge with
    | boundary | start => cases ha
    | noBoundary | startHalf | stopHalf => rfl
    | stop => simp [holds, WordEdge.holds, isWord] at h

def Instr.wantsWord : Instr → Bool
  | assertion a => a.wantsWord
  | _ => false

namespace Program

/-- Whether the program has an assertion that asks for a word character after the beginning of a text. -/
def wantsWord (p : Program) : Bool := p.code.any Instr.wantsWord

variable {p : Program} {after : Option Char} {start : Nat}

theorem steps_none (hp : p.wantsWord = false) {a b : Nat} (h : b ∈ p.steps none after a) : b ∈ p.steps none none a := by
  unfold steps at h ⊢
  cases hi : p.code[a]? with
  | none => simp [hi] at h
  | some i =>
    rw [hi] at h
    cases i with
    | assertion s =>
      have hs : s.wantsWord = false := by
        rw [← Bool.not_eq_true]
        exact Array.any_eq_false'.1 hp (.assertion s) (Array.mem_of_getElem? hi)
      by_cases hh : s.holds none after = true
      · simpa [Assertion.holds_none hs hh, hh] using h
      · simp [hh] at h
    | jump target | fork first second => exact h
    | char set | done => cases h

/-- Whatever follows, a walk stays among the instructions reached where nothing does. -/
theorem follow_none (hp : p.wantsWord = false) {z : Frontier} (hz : p.Complete none none z) : ∀ (fuel a : Nat)
    {y : Frontier}, z.isVisited a = true → (∀ b, y.isVisited b = true → z.isVisited b = true) →
      ∀ b, (p.follow none after start fuel a y).isVisited b = true → z.isVisited b = true := by
  intro fuel
  induction fuel with
  | zero => intro _ _ _ h; exact h
  | succ fuel ih =>
    intro a y ha h
    rw [follow_succ]
    split
    · exact h
    · have hs : ∀ b ∈ p.steps none after a, z.isVisited b = true := fun b hb => hz.closed a ha b (steps_none hp hb)
      have hm : ∀ b, (p.mark start a y).isVisited b = true → z.isVisited b = true := by
        intro b hb
        rw [isVisited_mark, Bool.or_eq_true, decide_eq_true_eq] at hb
        rcases hb with rfl | hb
        · exact ha
        · exact h b hb
      generalize p.mark start a y = y' at hm
      generalize p.steps none after a = l at hs
      induction l generalizing y' with
      | nil => exact hm
      | cons b bs ihs =>
        exact ihs _ (ih b (hs b List.mem_cons_self) hm) (fun c hb => hs c (List.mem_cons_of_mem _ hb))

/-- The match of a run is the best one before it or ends at or after its place. -/
theorem run_stop {m : Found} : ∀ (cs : List Char) {before offset fr best}, p.run before offset fr best cs = some m →
    best = some m ∨ offset ≤ m.stop.offset := by
  intro cs
  induction cs with
  | nil =>
    intro before offset fr best h
    rw [run_nil] at h
    rcases better_cases h with h | ⟨t, -, rfl⟩
    · exact .inl h
    · exact .inr (Nat.le_refl _)
  | cons c cs ih =>
    intro before offset fr best h
    rw [run_cons] at h
    rcases ih h with h | h
    · rcases better_cases h with h | ⟨t, -, rfl⟩
      · exact .inl h
      · exact .inr (Nat.le_refl _)
    · exact .inr (by omega)

/-- A match that consumes nothing at the beginning of a text is there in the empty text too. -/
theorem find?_nil_isSome (hp : p.wantsWord = false) {rest : List Char} {m : Found} (h : p.find? (.start rest) = some m)
    (ho : m.stop.offset = 0) : (p.find? (.start [])).isSome = true := by
  cases rest with
  | nil =>
    rw [h]
    rfl
  | cons c cs =>
    have hrun : p.run none 0 (.start p.code.size) none (c :: cs) = some m := h
    rw [run_cons] at hrun
    -- the match was found before anything was consumed, by a thread that had come to an end
    obtain ⟨t, ht, hdone⟩ : ∃ t ∈ p.arrived none 0 (.start p.code.size) none (some c),
        p.code[t.address]? = some .done := by
      rcases run_stop cs hrun with hb | hlt
      · unfold better at hb
        split at hb
        · next s hs =>
          obtain ⟨t, ht, -, hdone⟩ := p.settle_won hs
          exact ⟨t, ht, hdone⟩
        · cases hb
      · have := Char.utf8Size_pos c
        omega
    have hz := (p.complete_start none none).follow 0 0
    have hvisit := (p.follow_visits none none 0 p.code.size 0 (.start p.code.size)
      (by simpa [Frontier.start] using Frontier.card_left_le (.start p.code.size))).1
    have hy := ((p.complete_start none (some c)).follow 0 0).stays t (by simpa [arrived, enter] using ht)
    have hvisited := follow_none hp hz p.code.size 0 hvisit
      (fun b hb => p.follow_keeps none none 0 p.code.size 0 _ hb) t.address hy.1
    obtain ⟨t', ht', ha⟩ := hz.thread t.address hy.2 hvisited
    have hrun' : p.find? (.start []) = p.better none 0 (.start p.code.size) none [] :=
      p.run_nil none 0 (.start p.code.size) none
    rw [hrun', better]
    split
    · rfl
    · next hnone =>
      refine absurd hdone ?_
      rw [← ha]
      exact (p.settle_of_none hnone).2 t' (by simpa [arrived, enter] using ht')

end Program

end PatternLint.Regex
