import PatternLint.Proofs.Regex.Anchored
/-!
# Searches that do not look back

A program without assertions that look back finds the same whatever stands before the place of the search
(`find?_of_not_looksBack`). Put behind the assertion that the text starts, it is searched for at the first place only
(`find?_fenced`).
-/
namespace PatternLint.Regex

/-! ## What stands before the search -/

/-- Whether the assertion holds depends on what stands before the place. -/
def Assertion.LooksBack (a : Assertion) : Prop := ∃ before before' after, a.holds before after ≠ a.holds before' after

/-- The match with what stands before its end out of sight. -/
def Found.alone (m : Found) : Found := ⟨m.start, m.stop.alone⟩

namespace Program

/-- An assertion of the program looks back. -/
def LooksBack (p : Program) : Prop := ∃ a, .assertion a ∈ p.code ∧ a.LooksBack

section LooksBack
variable {p : Program} (hp : ¬p.LooksBack)
include hp

theorem steps_of_not_looksBack (before before' after : Option Char) (address : Nat) :
    p.steps before after address = p.steps before' after address := by
  unfold steps
  split
  · next a ha =>
    have heq : a.holds before after = a.holds before' after := by
      by_contra hne
      exact hp ⟨a, Array.mem_of_getElem? ha, before, before', after, hne⟩
    rw [heq]
  all_goals rfl

theorem follow_of_not_looksBack (before before' after : Option Char) (start fuel : Nat) :
    ∀ (address : Nat) (fr : Frontier),
      p.follow before after start fuel address fr = p.follow before' after start fuel address fr := by
  induction fuel with
  | zero => intro _ _; rfl
  | succ fuel ih =>
    intro address fr
    rw [follow_succ, follow_succ, steps_of_not_looksBack hp before before']
    simp only [ih]

section
variable (hfree : p.anchored = false) (before before' : Option Char) {offset : Nat} {fr : Frontier}
  {best best' : Option Found} (hbest : best.map Found.alone = best'.map Found.alone)
include hfree hbest

theorem arrived_of_not_looksBack (after : Option Char) :
    p.arrived before offset fr best after = p.arrived before' offset fr best' after := by
  have hsome : best.isSome = best'.isSome := by simpa using congrArg Option.isSome hbest
  simp only [arrived, enter, hsome, hfree, follow_of_not_looksBack hp before before', Bool.false_and]

theorem better_of_not_looksBack (rest : List Char) : (p.better before offset fr best rest).map Found.alone =
    (p.better before' offset fr best' rest).map Found.alone := by
  rw [better, better, arrived_of_not_looksBack hp hfree before before' hbest]
  cases (p.settle (p.arrived before' offset fr best' rest.head?)).2 with
  | some s => rfl
  | none => exact hbest

end

theorem run_of_not_looksBack (hfree : p.anchored = false) : ∀ (cs : List Char) {before before' : Option Char}
    {offset : Nat} {fr : Frontier} {best best' : Option Found}, best.map Found.alone = best'.map Found.alone →
      (p.run before offset fr best cs).map Found.alone = (p.run before' offset fr best' cs).map Found.alone := by
  intro cs
  induction cs with
  | nil =>
    intro before before' offset fr best best' h
    rw [run_nil, run_nil]
    exact better_of_not_looksBack hp hfree before before' h []
  | cons c cs ih =>
    intro before before' offset fr best best' h
    have hon : p.onward before offset fr best c cs = p.onward before' offset fr best' c cs := by
      rw [onward, onward, arrived_of_not_looksBack hp hfree before before' h]
    rw [run_cons, run_cons, hon]
    exact ih (better_of_not_looksBack hp hfree before before' h (c :: cs))

/-- A search without assertions that look back does not depend on what stands before its place. -/
theorem find?_of_not_looksBack (hfree : p.anchored = false) {c d : Cursor} (h : c.alone = d.alone) :
    (p.find? c).map Found.alone = (p.find? d).map Found.alone := by
  obtain ⟨before, offset, rest⟩ := c
  obtain ⟨before', offset', rest'⟩ := d
  cases h
  exact run_of_not_looksBack hp hfree rest rfl

end LooksBack

end Program

/-! ## Behind the assertion that the text starts -/

/-- The instruction in code that begins one address further on. -/
def Instr.moved : Instr → Instr
  | jump target => jump (target + 1)
  | fork first second => fork (first + 1) (second + 1)
  | i => i

def Thread.moved (t : Thread) : Thread := ⟨t.address + 1, t.start⟩

namespace Program

/-- The program behind the assertion that the text starts. -/
def fenced (p : Program) : Program := ⟨#[.assertion .textStart] ++ p.code.map Instr.moved, true⟩

/-- The second frontier is the first, one address further on. -/
structure Moved (p : Program) (fr fr' : Frontier) : Prop where
  size : fr.visited.size = p.code.size
  visited : ∀ a, fr'.isVisited (a + 1) = fr.isVisited a
  threads : fr'.threads = fr.threads.map Thread.moved

variable {p : Program} {fr fr' : Frontier}

theorem fenced_getElem? (a : Nat) : p.fenced.code[a + 1]? = (p.code[a]?).map Instr.moved := by
  simp [fenced, Array.getElem?_append, Array.getElem?_map]

theorem fenced_getElem?_zero : p.fenced.code[0]? = some (.assertion .textStart) := by
  rw [fenced, Array.getElem?_append_left (by simp)]
  rfl

theorem size_fenced : p.fenced.code.size = p.code.size + 1 := by
  simp [fenced, Nat.add_comm]

theorem stops_fenced (a : Nat) : p.fenced.stops (a + 1) = p.stops a := by
  rw [stops, stops, fenced_getElem?]
  rcases p.code[a]? with _ | (_ | _ | _ | _ | _) <;> rfl

theorem steps_fenced (before after : Option Char) (a : Nat) :
    p.fenced.steps before after (a + 1) = (p.steps before after a).map (· + 1) := by
  rw [steps, steps, fenced_getElem?]
  rcases p.code[a]? with _ | (_ | s | _ | _ | _) <;> try rfl
  by_cases hs : s.holds before after <;> simp [Instr.moved, hs]

/-- More fuel than there are instructions left to visit changes nothing. -/
theorem follow_fuel (p : Program) (before after : Option Char) (start : Nat) : ∀ (fuel address : Nat) (fr : Frontier),
    fr.left.card ≤ fuel →
      p.follow before after start (fuel + 1) address fr = p.follow before after start fuel address fr := by
  intro fuel
  induction fuel with
  | zero =>
    intro address fr hl
    have hv : fr.isVisited address = true := (p.follow_visits before after start 0 address fr hl).1
    rw [follow_succ, if_pos hv]
    rfl
  | succ fuel ih =>
    intro address fr hl
    rw [follow_succ, follow_succ _ _ _ _ fuel]
    split
    · rfl
    · next hv =>
      have hcard := p.card_left_mark start (by simpa using hv : fr.isVisited address = false)
      have hm : (p.mark start address fr).left.card ≤ fuel := by omega
      generalize p.mark start address fr = x at hm
      induction p.steps before after address generalizing x with
      | nil => rfl
      | cons b bs ihs =>
        rw [List.foldl_cons, List.foldl_cons, ih b x hm]
        have hc := (p.follow_visits before after start fuel b x hm).2.1
        exact ihs _ ((Finset.card_le_card (Frontier.left_subset hc)).trans hm)

theorem Moved.mark (h : p.Moved fr fr') (start a : Nat) :
    p.Moved (p.mark start a fr) (p.fenced.mark start (a + 1) fr') where
  size := by rw [size_mark, h.size]
  visited b := by simp [h.visited]
  threads := by
    rw [threads_mark, threads_mark, stops_fenced, h.threads]
    split <;> rfl

theorem Moved.follow (before after : Option Char) (start fuel : Nat) : ∀ (a : Nat) {fr fr' : Frontier},
    p.Moved fr fr' →
      p.Moved (p.follow before after start fuel a fr) (p.fenced.follow before after start fuel (a + 1) fr') := by
  induction fuel with
  | zero => intro _ _ _ h; exact h
  | succ fuel ih =>
    intro a fr fr' h
    rw [follow_succ, follow_succ, h.visited, steps_fenced]
    split
    · exact h
    · have hm := h.mark start a
      generalize p.mark start a fr = x at hm
      generalize p.fenced.mark start (a + 1) fr' = x' at hm
      induction p.steps before after a generalizing x x' with
      | nil => exact hm
      | cons b bs ihs => exact ihs _ _ (ih b hm)

theorem settle_fenced (ts : List Thread) :
    p.fenced.settle (ts.map Thread.moved) = ((p.settle ts).1.map Thread.moved, (p.settle ts).2) := by
  induction ts with
  | nil => rfl
  | cons t ts ih =>
    have hcode : p.fenced.code[t.moved.address]? = (p.code[t.address]?).map Instr.moved := fenced_getElem? t.address
    rw [List.map_cons, settle, settle, hcode, ih]
    rcases p.code[t.address]? with _ | (_ | _ | _ | _ | _) <;> rfl

theorem Moved.advance (h : p.Moved fr fr') (c : Char) (after : Option Char) (t : Thread) :
    p.Moved (p.advance c after fr t) (p.fenced.advance c after fr' t.moved) := by
  have hcode : p.fenced.code[t.moved.address]? = (p.code[t.address]?).map Instr.moved := fenced_getElem? t.address
  rw [Program.advance, Program.advance, hcode]
  rcases p.code[t.address]? with _ | (s | _ | _ | _ | _) <;> try exact h
  simp only [Option.map_some, Instr.moved]
  split
  · rw [size_fenced, ← p.follow_fuel _ _ _ _ _ _ (fr.card_left_le.trans h.size.le)]
    exact h.follow _ _ _ _ _
  · exact h

theorem Moved.foldl_advance (c : Char) (after : Option Char) (ts : List Thread) : ∀ {fr fr' : Frontier},
    p.Moved fr fr' →
      p.Moved (ts.foldl (p.advance c after) fr) ((ts.map Thread.moved).foldl (p.fenced.advance c after) fr') := by
  induction ts with
  | nil => intro _ _ h; exact h
  | cons t ts ih => intro _ _ h; exact ih (h.advance c after t)

theorem moved_start (p : Program) : p.Moved (.start p.code.size) (.start p.fenced.code.size) where
  size := by simp [Frontier.start]
  visited a := by simp [size_fenced]
  threads := rfl

/-- Past the first place only threads are left that passed the assertion. -/
theorem arrived_fenced_later (h : p.Moved fr fr') (x : Char) (offset : Nat) (best : Option Found)
    (after : Option Char) : p.fenced.arrived (some x) offset fr' best after =
      (p.pinned.arrived (some x) offset fr best after).map Thread.moved := by
  rw [arrived_pinned, List.map_reverse, ← h.threads]
  simp [arrived, enter, fenced]

/-- At the beginning of a text the assertion is passed. -/
theorem arrived_fenced_start (p : Program) (offset : Nat) (after : Option Char) :
    p.fenced.arrived none offset (.start p.fenced.code.size) none after =
      (p.pinned.arrived none offset (.start p.pinned.code.size) none after).map Thread.moved := by
  have hmark : p.fenced.mark offset 0 (.start p.fenced.code.size) = (Frontier.start p.fenced.code.size).visit 0 := by
    simp [mark, stops, fenced_getElem?_zero]
  have hpassed : p.Moved (.start p.code.size) ((Frontier.start p.fenced.code.size).visit 0) :=
    ⟨p.moved_start.size, fun a => by simp [size_fenced], rfl⟩
  have hfenced : p.fenced.enter none after offset none (.start p.fenced.code.size) =
      p.fenced.follow none after offset p.code.size (0 + 1) ((Frontier.start p.fenced.code.size).visit 0) := by
    have hstep : p.fenced.steps none after 0 = [0 + 1] := by
      simp [steps, fenced_getElem?_zero, Assertion.holds]
    have hnew : (Frontier.start p.fenced.code.size).isVisited 0 = false := by simp [size_fenced]
    have henter : p.fenced.enter none after offset none (.start p.fenced.code.size) =
        p.fenced.follow none after offset p.fenced.code.size 0 (.start p.fenced.code.size) := by simp [enter]
    rw [henter]
    nth_rewrite 1 [size_fenced]
    rw [follow_succ, if_neg (by simp [hnew]), hstep, hmark]
    rfl
  have hpinned : p.pinned.enter none after offset none (.start p.pinned.code.size) =
      p.follow none after offset p.code.size 0 (.start p.code.size) := by
    simp only [enter, Option.isSome_none, Bool.and_false, Bool.or_false, follow_pinned]
    rfl
  rw [arrived, arrived, hfenced, hpinned, (hpassed.follow none after offset p.code.size 0).threads, List.map_reverse]

section Place
variable {before : Option Char} {offset : Nat} {best : Option Found} (harr : ∀ after,
  p.fenced.arrived before offset fr' best after = (p.pinned.arrived before offset fr best after).map Thread.moved)
include harr

theorem better_fenced (rest : List Char) :
    p.fenced.better before offset fr' best rest = p.pinned.better before offset fr best rest := by
  rw [better, better, harr, settle_fenced, settle_pinned]

theorem onward_fenced (c : Char) (cs : List Char) :
    p.Moved (p.pinned.onward before offset fr best c cs) (p.fenced.onward before offset fr' best c cs) := by
  rw [onward, onward, harr, settle_fenced, settle_pinned, advance_pinned]
  exact Moved.foldl_advance c cs.head? _ p.moved_start

end Place

theorem run_fenced : ∀ (cs : List Char) {x : Char} {offset : Nat} {fr fr' : Frontier} {best : Option Found},
    p.Moved fr fr' → p.fenced.run (some x) offset fr' best cs = p.pinned.run (some x) offset fr best cs := by
  intro cs
  induction cs with
  | nil =>
    intro x offset fr fr' best h
    rw [run_nil, run_nil]
    exact better_fenced (arrived_fenced_later h x offset best) []
  | cons c cs ih =>
    intro x offset fr fr' best h
    have harr := arrived_fenced_later h x offset best
    rw [run_cons, run_cons, better_fenced harr]
    exact ih (onward_fenced harr c cs)

/-- Behind the assertion that the text starts, a program is found where a search pinned to its first place finds it. -/
theorem find?_fenced (p : Program) {c : Cursor} (hc : c.before = none) : p.fenced.find? c = p.pinned.find? c := by
  have harr := p.arrived_fenced_start c.offset
  cases hrest : c.rest with
  | nil =>
    rw [find?_nil hrest, find?_nil hrest, hc]
    exact better_fenced harr []
  | cons x xs =>
    rw [find?_cons hrest, find?_cons hrest, hc, better_fenced harr]
    exact run_fenced xs (onward_fenced harr x xs)

end Program

end PatternLint.Regex
