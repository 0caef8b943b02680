import Mathlib.Data.Finset.Card
import PatternLint.Regex.Search
/-!
# Following threads

`follow` is a depth-first walk along the instructions that consume nothing. What it does is said once through two
operations: `steps` lists where an instruction goes on without consuming, and `mark` is what happens at an
instruction that was not visited yet. `follow_visits` says that the walk visits everything it can come to, and
`follow_shadow` compares a walk with one that finds some instructions already visited.
-/
namespace PatternLint.Regex

namespace Frontier

variable (fr : Frontier) (a b : Nat) (t : Thread)

@[simp] theorem isVisited_visit : (fr.visit a).isVisited b = (decide (b = a) || fr.isVisited b) := by
  simp only [isVisited, visit, Array.getD_eq_getD_getElem?, Array.getElem?_setIfInBounds]
  by_cases h : b = a
  · subst h
    by_cases hb : b < fr.visited.size <;> simp [hb]
  · simp [h, Ne.symm h]

@[simp] theorem isVisited_push : (fr.push t).isVisited b = fr.isVisited b := rfl

@[simp] theorem threads_visit : (fr.visit a).threads = fr.threads := rfl

@[simp] theorem threads_push : (fr.push t).threads = t :: fr.threads := rfl

@[simp] theorem size_visit : (fr.visit a).visited.size = fr.visited.size := by simp [visit]

@[simp] theorem size_push : (fr.push t).visited.size = fr.visited.size := rfl

@[simp] theorem isVisited_start (size : Nat) : (start size).isVisited a = decide (size ≤ a) := by
  by_cases h : a < size
  · simp [isVisited, start, h]
  · simp [isVisited, start, h, Nat.le_of_not_lt h]

@[simp] theorem threads_start (size : Nat) : (start size).threads = [] := rfl

/-- The instructions not visited yet. -/
def left : Finset Nat := (Finset.range fr.visited.size).filter fun a => fr.isVisited a = false

theorem mem_left : a ∈ fr.left ↔ fr.isVisited a = false := by
  simp only [left, Finset.mem_filter, Finset.mem_range, and_iff_right_iff_imp]
  intro h
  by_contra hn
  simp [isVisited, hn] at h

theorem card_left_le : fr.left.card ≤ fr.visited.size :=
  (Finset.card_filter_le _ _).trans (by simp)

theorem left_subset {fr fr' : Frontier} (h : ∀ a, fr.isVisited a = true → fr'.isVisited a = true) :
    fr'.left ⊆ fr.left := by
  intro a ha
  rw [mem_left] at ha ⊢
  by_contra hn
  simp [h a (by simpa using hn)] at ha

end Frontier

namespace Program

variable (p : Program) (before after : Option Char) (start : Nat)

/-- Whether a thread stays at an instruction: it consumes there, or ends. -/
def stops (address : Nat) : Bool :=
  match p.code[address]? with
  | some (.char _) | some .done => true
  | _ => false

/-- Where an instruction goes on without consuming, the preferred place first. -/
def steps (address : Nat) : List Nat :=
  match p.code[address]? with
  | some (.assertion a) => if a.holds before after then [address + 1] else []
  | some (.jump target) => [target]
  | some (.fork first second) => [first, second]
  | _ => []

/-- Visits an instruction, and leaves a thread there if one stays. -/
def mark (address : Nat) (fr : Frontier) : Frontier :=
  if p.stops address then (fr.visit address).push ⟨address, start⟩ else fr.visit address

theorem follow_succ (fuel address : Nat) (fr : Frontier) :
    p.follow before after start (fuel + 1) address fr =
      if fr.isVisited address then fr
      else (p.steps before after address).foldl (fun fr b => p.follow before after start fuel b fr)
        (p.mark start address fr) := by
  rw [follow, steps, mark, stops]
  split
  · rfl
  · cases p.code[address]? with
    | none => rfl
    | some i =>
      cases i with
      | assertion a => by_cases ha : a.holds before after <;> simp [ha]
      | _ => rfl

@[simp] theorem isVisited_mark (address b : Nat) (fr : Frontier) :
    (p.mark start address fr).isVisited b = (decide (b = address) || fr.isVisited b) := by
  unfold mark
  split <;> simp

@[simp] theorem size_mark (address : Nat) (fr : Frontier) :
    (p.mark start address fr).visited.size = fr.visited.size := by
  unfold mark
  split <;> simp

theorem threads_mark (address : Nat) (fr : Frontier) :
    (p.mark start address fr).threads = if p.stops address then ⟨address, start⟩ :: fr.threads else fr.threads := by
  unfold mark
  split <;> simp

/-- What holds after marking a new instruction, and is kept on the way, holds after a walk. -/
theorem follow_rel {R : Frontier → Frontier → Prop} (refl : ∀ fr, R fr fr)
    (trans : ∀ {x y z}, R x y → R y z → R x z)
    (hmark : ∀ a fr, fr.isVisited a = false → R fr (p.mark start a fr)) :
    ∀ fuel address fr, R fr (p.follow before after start fuel address fr) := by
  intro fuel
  induction fuel with
  | zero => intro _ fr; exact refl fr
  | succ fuel ih =>
    intro address fr
    rw [follow_succ]
    split
    · exact refl fr
    · next hv =>
      refine trans (hmark address fr (by simpa using hv)) ?_
      generalize p.mark start address fr = fr'
      induction p.steps before after address generalizing fr' with
      | nil => exact refl fr'
      | cons b bs ihs => exact trans (ih b fr') (ihs _)

theorem follow_keeps (fuel address : Nat) (fr : Frontier) {a : Nat} (h : fr.isVisited a = true) :
    (p.follow before after start fuel address fr).isVisited a = true := by
  refine p.follow_rel before after start (R := fun x y => x.isVisited a = true → y.isVisited a = true)
    (fun _ => id) (fun f g => g ∘ f) (fun b fr _ h => ?_) fuel address fr h
  simp [h]

@[simp] theorem size_follow (fuel address : Nat) (fr : Frontier) :
    (p.follow before after start fuel address fr).visited.size = fr.visited.size :=
  p.follow_rel before after start (R := fun x y => y.visited.size = x.visited.size)
    (fun _ => rfl) (fun f g => g.trans f) (fun b fr _ => size_mark p start b fr) fuel address fr

theorem follow_threads (fuel address : Nat) (fr : Frontier) :
    ∀ t ∈ (p.follow before after start fuel address fr).threads, t ∈ fr.threads ∨ t.start = start := by
  refine p.follow_rel before after start (R := fun x y => ∀ t ∈ y.threads, t ∈ x.threads ∨ t.start = start)
    (fun _ t ht => .inl ht) (fun f g t ht => (g t ht).elim (f t) .inr) (fun b fr _ t ht => ?_) fuel address fr
  rw [threads_mark] at ht
  split at ht
  · rcases List.mem_cons.1 ht with rfl | ht
    · exact .inr rfl
    · exact .inl ht
  · exact .inl ht

/-! ## A walk visits what it can come to -/

theorem card_left_mark {address : Nat} {fr : Frontier} (h : fr.isVisited address = false) :
    (p.mark start address fr).left.card < fr.left.card := by
  refine Finset.card_lt_card ⟨Frontier.left_subset fun a ha => by simp [ha], fun hs => ?_⟩
  have := hs ((fr.mem_left address).2 h)
  simp [Frontier.mem_left] at this

/-- Everything visited since `fr` has its steps visited too. -/
def ClosedSince (fr fr' : Frontier) : Prop :=
  (∀ a, fr.isVisited a = true → fr'.isVisited a = true) ∧
    ∀ a, fr'.isVisited a = true → fr.isVisited a = true ∨ ∀ b ∈ p.steps before after a, fr'.isVisited b = true

variable {p before after} in
theorem ClosedSince.trans {x y z : Frontier} (h : p.ClosedSince before after x y)
    (h' : p.ClosedSince before after y z) : p.ClosedSince before after x z := by
  refine ⟨fun a ha => h'.1 a (h.1 a ha), fun a ha => ?_⟩
  rcases h'.2 a ha with ha | ha
  · rcases h.2 a ha with ha | ha
    · exact .inl ha
    · exact .inr fun b hb => h'.1 b (ha b hb)
  · exact .inr ha

/-- With enough fuel a walk visits the instruction it starts at, and the steps of all it visits. -/
theorem follow_visits : ∀ (fuel address : Nat) (fr : Frontier), fr.left.card ≤ fuel →
    (p.follow before after start fuel address fr).isVisited address = true ∧
      p.ClosedSince before after fr (p.follow before after start fuel address fr) := by
  intro fuel
  induction fuel with
  | zero =>
    intro address fr hl
    refine ⟨?_, fun _ h => h, fun _ h => .inl h⟩
    by_contra hn
    have hm := (fr.mem_left address).2 (by simpa [follow] using hn)
    rw [Finset.card_eq_zero.1 (Nat.le_zero.1 hl)] at hm
    simp at hm
  | succ fuel ih =>
    intro address fr hl
    rw [follow_succ]
    split
    · next hv => exact ⟨hv, fun _ h => h, fun _ h => .inl h⟩
    · next hv =>
      have hv : fr.isVisited address = false := by simpa using hv
      -- the steps are walked one after the other, each with enough fuel since the mark took one instruction away
      have hsteps : ∀ (l : List Nat) (x : Frontier), x.left.card ≤ fuel →
          (∀ b ∈ l, (l.foldl (fun x b => p.follow before after start fuel b x) x).isVisited b = true) ∧
            p.ClosedSince before after x (l.foldl (fun x b => p.follow before after start fuel b x) x) := by
        intro l
        induction l with
        | nil => intro x _; exact ⟨by simp, fun _ h => h, fun _ h => .inl h⟩
        | cons b l ihl =>
          intro x hx
          obtain ⟨hb, hc⟩ := ih b x hx
          obtain ⟨hl', hc'⟩ := ihl _ ((Finset.card_le_card (Frontier.left_subset hc.1)).trans hx)
          refine ⟨fun a ha => ?_, hc.trans hc'⟩
          rcases List.mem_cons.1 ha with rfl | ha
          · exact hc'.1 a hb
          · exact hl' a ha
      have hcard := p.card_left_mark start hv
      obtain ⟨hs, hc⟩ := hsteps (p.steps before after address) (p.mark start address fr) (by omega)
      refine ⟨hc.1 address (by simp), fun a ha => hc.1 a (by simp [ha]), fun a ha => ?_⟩
      rcases hc.2 a ha with ha | ha
      · simp only [isVisited_mark, Bool.or_eq_true, decide_eq_true_eq] at ha
        rcases ha with rfl | ha
        · exact .inr hs
        · exact .inl ha
      · exact .inr ha

/-- A frontier as walks at one place leave it: the steps of what was visited were visited too, and threads stand
at exactly the visited instructions at which one stays. -/
structure Complete (fr : Frontier) : Prop where
  size : fr.visited.size = p.code.size
  closed : ∀ a, fr.isVisited a = true → ∀ b ∈ p.steps before after a, fr.isVisited b = true
  stays : ∀ t ∈ fr.threads, fr.isVisited t.address = true ∧ p.stops t.address = true
  thread : ∀ a, p.stops a = true → fr.isVisited a = true → ∃ t ∈ fr.threads, t.address = a

theorem code_eq_none {address : Nat} (h : p.code.size ≤ address) : p.code[address]? = none := by simp [h]

theorem complete_start : p.Complete before after (.start p.code.size) where
  size := by simp [Frontier.start]
  closed a ha b hb := by
    rw [steps, p.code_eq_none (by simpa using ha)] at hb
    simp at hb
  stays t ht := by simp at ht
  thread a hs ha := by
    rw [stops, p.code_eq_none (by simpa using ha)] at hs
    simp at hs

variable {p before after} in
theorem Complete.follow {fr : Frontier} (h : p.Complete before after fr) (address : Nat) :
    p.Complete before after (p.follow before after start p.code.size address fr) := by
  have hsize : fr.left.card ≤ p.code.size := fr.card_left_le.trans h.size.le
  obtain ⟨-, hc⟩ := p.follow_visits before after start p.code.size address fr hsize
  refine ⟨by simp [h.size], fun a ha b hb => ?_, ?_, ?_⟩
  · rcases hc.2 a ha with ha | ha
    · exact hc.1 b (h.closed a ha b hb)
    · exact ha b hb
  · refine p.follow_rel before after start
      (R := fun x y => (∀ t ∈ x.threads, x.isVisited t.address = true ∧ p.stops t.address = true) →
        ∀ t ∈ y.threads, y.isVisited t.address = true ∧ p.stops t.address = true)
      (fun _ => id) (fun f g => g ∘ f) (fun b x _ hx t ht => ?_) _ _ _ h.stays
    rw [threads_mark] at ht
    split at ht
    · next hb =>
      rcases List.mem_cons.1 ht with rfl | ht
      · simp [hb]
      · simp [hx t ht]
    · simp [hx t ht]
  · refine p.follow_rel before after start
      (R := fun x y => (∀ a, p.stops a = true → x.isVisited a = true → ∃ t ∈ x.threads, t.address = a) →
        ∀ a, p.stops a = true → y.isVisited a = true → ∃ t ∈ y.threads, t.address = a)
      (fun _ => id) (fun f g => g ∘ f) (fun b x _ hx a hs ha => ?_) _ _ _ h.thread
    rw [threads_mark]
    simp only [isVisited_mark, Bool.or_eq_true, decide_eq_true_eq] at ha
    rcases ha with rfl | ha
    · simp [hs]
    · obtain ⟨t, ht, rfl⟩ := hx a hs ha
      split
      · exact ⟨t, List.mem_cons_of_mem _ ht, rfl⟩
      · exact ⟨t, ht, rfl⟩

/-! ## A walk behind another

`Shadow e x y` compares two frontiers at one place. The threads of `e` come first in `x` and are not in `y`. What `e`
visited is lost to the later threads of `x`, and that is all: where `y` has more threads, they stand at instructions
that `e` visited. -/

/-- `x` is `y` behind the threads of `e`. -/
structure Shadow (e x y : Frontier) : Prop where
  visited : ∀ a, x.isVisited a = (e.isVisited a || y.isVisited a)
  threads : x.threads = y.threads.filter (fun t => !e.isVisited t.address) ++ e.threads

section Shadow
variable {p before after start} {e x y : Frontier}

theorem Shadow.refl_start (h : e.visited.size = p.code.size) : Shadow e e (.start p.code.size) where
  visited a := by
    by_cases ha : a < e.visited.size
    · simp [← h, ha]
    · simp [Frontier.isVisited, ha]
  threads := by simp

theorem Shadow.mark_right (h : Shadow e x y) {a : Nat} (ha : e.isVisited a = true) :
    Shadow e x (p.mark start a y) where
  visited b := by
    rw [h.visited, isVisited_mark]
    by_cases hb : b = a
    · simp [hb, ha]
    · simp [hb]
  threads := by
    rw [h.threads, threads_mark]
    split
    · simp [ha]
    · rfl

theorem Shadow.mark (h : Shadow e x y) {a : Nat} (ha : e.isVisited a = false) :
    Shadow e (p.mark start a x) (p.mark start a y) where
  visited b := by
    simp only [isVisited_mark, h.visited]
    cases e.isVisited b <;> simp
  threads := by
    rw [threads_mark, threads_mark, h.threads]
    split
    · simp [ha]
    · rfl

/-- A walk that starts at an instruction of `e` stays among those. -/
theorem Shadow.follow_right (hc : p.Complete before after e) : ∀ (fuel a : Nat) {y : Frontier},
    e.isVisited a = true → Shadow e x y → Shadow e x (p.follow before after start fuel a y) := by
  intro fuel
  induction fuel with
  | zero => intro _ _ _ h; exact h
  | succ fuel ih =>
    intro a y ha h
    rw [follow_succ]
    split
    · exact h
    · have hs := hc.closed a ha
      have hm : Shadow e x (p.mark start a y) := h.mark_right ha
      generalize p.mark start a y = y' at hm
      generalize p.steps before after a = l at hs
      induction l generalizing y' with
      | nil => exact hm
      | cons b bs ihs =>
        exact ihs _ (ih b (hs b List.mem_cons_self) hm) (fun c hb => hs c (List.mem_cons_of_mem _ hb))

/-- A walk in both frontiers keeps the one behind the other. -/
theorem Shadow.follow (hc : p.Complete before after e) : ∀ (fuel a : Nat) {x y : Frontier},
    Shadow e x y → Shadow e (p.follow before after start fuel a x) (p.follow before after start fuel a y) := by
  intro fuel
  induction fuel with
  | zero => intro _ _ _ h; exact h
  | succ fuel ih =>
    intro a x y h
    have hv := h.visited a
    cases ha : e.isVisited a with
    | true =>
      -- `x` finds the instruction visited, and the walk in `y` adds nothing outside `e`
      have hx : p.follow before after start (fuel + 1) a x = x := by simp [follow_succ, hv, ha]
      rw [hx]
      exact h.follow_right hc (fuel + 1) a ha
    | false =>
      rw [ha, Bool.false_or] at hv
      rw [follow_succ, follow_succ, hv]
      split
      · exact h
      · have hm : Shadow e (p.mark start a x) (p.mark start a y) := h.mark ha
        generalize p.mark start a x = x' at hm
        generalize p.mark start a y = y' at hm
        induction p.steps before after a generalizing x' y' with
        | nil => exact hm
        | cons b bs ihs => exact ihs _ _ (ih b hm)

end Shadow

end Program

end PatternLint.Regex
