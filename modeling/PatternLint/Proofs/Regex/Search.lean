import PatternLint.Proofs.Regex.Threads
import PatternLint.Proofs.Text.Position
/-!
# What a search finds

A search goes from place to place, and `run_nil` and `run_cons` say what happens at one of them. A match that `find?`
gives starts and ends at places of the text at or after the place of the search (`find?_leads`). The offset from which
a search counts changes nothing but the offsets of the match (`find?_shift`).
-/
namespace PatternLint.Regex

namespace Program

variable (p : Program)

/-! ## Settling a place -/

theorem settle_mem {ts : List Thread} {t : Thread} (h : t ∈ (p.settle ts).1) : t ∈ ts := by
  induction ts with
  | nil => simp [settle] at h
  | cons u ts ih =>
    rw [settle] at h
    split at h
    · simp at h
    · rcases List.mem_cons.1 h with rfl | h
      · exact List.mem_cons_self
      · exact List.mem_cons_of_mem _ (ih h)

theorem settle_won {ts : List Thread} {s : Nat} (h : (p.settle ts).2 = some s) :
    ∃ t ∈ ts, t.start = s ∧ p.code[t.address]? = some .done := by
  induction ts with
  | nil => simp [settle] at h
  | cons u ts ih =>
    rw [settle] at h
    split at h
    · next hd => exact ⟨u, List.mem_cons_self, by simpa using h, hd⟩
    · obtain ⟨t, ht, hs⟩ := ih h
      exact ⟨t, List.mem_cons_of_mem _ ht, hs⟩

/-- Without a thread that ends, all go on. -/
theorem settle_of_none {ts : List Thread} (h : (p.settle ts).2 = none) :
    (p.settle ts).1 = ts ∧ ∀ t ∈ ts, p.code[t.address]? ≠ some .done := by
  induction ts with
  | nil => simp [settle]
  | cons u ts ih =>
    rw [settle] at h ⊢
    split at h
    · cases h
    · next hd =>
      obtain ⟨h1, h2⟩ := ih h
      refine ⟨by simp [h1], fun t ht => ?_⟩
      rcases List.mem_cons.1 ht with rfl | ht
      · exact hd
      · exact h2 t ht

theorem settle_append_of_none {ts us : List Thread} (h : (p.settle ts).2 = none) :
    p.settle (ts ++ us) = (ts ++ (p.settle us).1, (p.settle us).2) := by
  induction ts with
  | nil => rfl
  | cons u ts ih =>
    rw [List.cons_append, settle]
    rw [settle] at h
    split at h
    · cases h
    · next hd => simp [ih h]

theorem settle_append_of_some {ts us : List Thread} {s : Nat} (h : (p.settle ts).2 = some s) :
    p.settle (ts ++ us) = p.settle ts := by
  induction ts with
  | nil => simp [settle] at h
  | cons u ts ih =>
    rw [List.cons_append, settle, settle]
    rw [settle] at h
    split at h
    · rfl
    · simp only [ih h]

/-- Leaving out threads that do not end leaves them out of those that go on. -/
theorem settle_filter (q : Thread → Bool) {ts : List Thread}
    (h : ∀ t ∈ ts, q t = false → p.code[t.address]? ≠ some .done) :
    p.settle (ts.filter q) = ((p.settle ts).1.filter q, (p.settle ts).2) := by
  induction ts with
  | nil => rfl
  | cons u ts ih =>
    have ih := ih fun t ht => h t (List.mem_cons_of_mem _ ht)
    cases hq : q u with
    | false =>
      have hd := h u List.mem_cons_self hq
      rw [List.filter_cons_of_neg (by simp [hq]), ih, settle]
      split
      · next hu => exact absurd hu hd
      · simp [hq]
    | true =>
      rw [List.filter_cons_of_pos hq, settle, settle]
      split
      · rfl
      · simp [ih, hq]

/-! ## One place after the other -/

variable (before : Option Char) (offset : Nat) (fr : Frontier) (best : Option Found)

/-- The threads at a place once a new one was started, in order of preference. -/
def arrived (after : Option Char) : List Thread := (p.enter before after offset best fr).threads.reverse

/-- The preferred match after a place was settled. -/
def better (rest : List Char) : Option Found :=
  match (p.settle (p.arrived before offset fr best rest.head?)).2 with
  | some s => some ⟨s, ⟨before, offset, rest⟩⟩
  | none => best

/-- The threads that consumed `c` and stand at the next place. -/
def onward (c : Char) (cs : List Char) : Frontier :=
  (p.settle (p.arrived before offset fr best (some c))).1.foldl (p.advance c cs.head?) (.start p.code.size)

theorem run_nil : p.run before offset fr best [] = p.better before offset fr best [] := by
  rw [run, better, arrived]
  rfl

/-- Without threads, and with none to start, nothing changes. -/
theorem run_idle (h : best.isSome || p.anchored) : ∀ (x : Char) (offset : Nat) (cs : List Char),
    p.run (some x) offset (.start p.code.size) best cs = best := by
  intro x offset cs
  have henter : ∀ (x : Char) (offset : Nat) (after : Option Char),
      p.enter (some x) after offset best (.start p.code.size) = .start p.code.size := by
    intro x offset after
    simp only [enter, Option.isSome_some, Bool.and_true]
    rw [if_pos h]
  induction cs generalizing x offset with
  | nil => simp [run, henter, settle]
  | cons c cs ih =>
    rw [run, henter]
    simp [settle, h]

/-- The search may stop early, but going on would change nothing. -/
theorem run_cons (c : Char) (cs : List Char) : p.run before offset fr best (c :: cs) =
    p.run (some c) (offset + c.utf8Size) (p.onward before offset fr best c cs)
      (p.better before offset fr best (c :: cs)) cs := by
  rw [run]
  simp only [onward, better, arrived, List.head?_cons]
  have hstop : ∀ (live : List Thread) (b : Option Found), (live.isEmpty && (b.isSome || p.anchored)) = true →
      b = p.run (some c) (offset + c.utf8Size) (live.foldl (p.advance c cs.head?) (.start p.code.size)) b cs := by
    intro live b h
    rw [Bool.and_eq_true, List.isEmpty_iff] at h
    rw [h.1]
    exact (p.run_idle b h.2 c _ cs).symm
  generalize p.settle (p.enter before (some c) offset best fr).threads.reverse = r
  obtain ⟨live, won⟩ := r
  cases won with
  | none =>
    simp only
    split
    · next h => exact hstop live best h
    · rfl
  | some s =>
    simp only
    split
    · next h => exact hstop live _ h
    · rfl

/-! ## Where matches start and end -/

/-- Reading on from `c` to `d` passes the offset `n`. -/
def Passes (c : Cursor) (n : Nat) (d : Cursor) : Prop := ∃ e : Cursor, c.Leads e ∧ e.offset = n ∧ e.Leads d

variable {p before offset fr best}

theorem mem_arrived {after : Option Char} {t : Thread} (h : t ∈ p.arrived before offset fr best after) :
    t ∈ fr.threads ∨ t.start = offset := by
  rw [arrived, List.mem_reverse, enter] at h
  split at h
  · exact .inl h
  · exact p.follow_threads _ _ _ _ _ _ t h

theorem mem_advance {c : Char} {after : Option Char} {t u : Thread} (h : u ∈ (p.advance c after fr t).threads) :
    u ∈ fr.threads ∨ u.start = t.start := by
  unfold advance at h
  split at h
  · split at h
    · exact p.follow_threads _ _ _ _ _ _ u h
    · exact .inl h
  · exact .inl h

theorem mem_foldl_advance {c : Char} {after : Option Char} {ts : List Thread} {u : Thread} :
    ∀ {fr : Frontier}, u ∈ (ts.foldl (p.advance c after) fr).threads →
      u ∈ fr.threads ∨ ∃ t ∈ ts, u.start = t.start := by
  induction ts with
  | nil => intro _ h; exact .inl h
  | cons t ts ih =>
    intro fr h
    rcases ih h with h | ⟨v, hv, hs⟩
    · rcases mem_advance h with h | h
      · exact .inl h
      · exact .inr ⟨t, List.mem_cons_self, h⟩
    · exact .inr ⟨v, List.mem_cons_of_mem _ hv, hs⟩

/-- A thread at the next place started where one at this place did. -/
theorem mem_onward {c : Char} {cs : List Char} {u : Thread} (h : u ∈ (p.onward before offset fr best c cs).threads) :
    ∃ t ∈ p.arrived before offset fr best (some c), u.start = t.start := by
  rcases mem_foldl_advance h with h | ⟨t, ht, hs⟩
  · simp at h
  · exact ⟨t, p.settle_mem ht, hs⟩

theorem better_cases {rest : List Char} {m : Found} (h : p.better before offset fr best rest = some m) :
    best = some m ∨ ∃ t ∈ p.arrived before offset fr best rest.head?, m = ⟨t.start, ⟨before, offset, rest⟩⟩ := by
  unfold better at h
  split at h
  · next s hs =>
    obtain ⟨t, ht, hst, -⟩ := p.settle_won hs
    cases h
    exact .inr ⟨t, ht, by rw [hst]⟩
  · exact .inl h

theorem run_passes {c : Cursor} {m : Found} : ∀ (cs : List Char) {before offset fr best},
    c.Leads ⟨before, offset, cs⟩ → (∀ t ∈ fr.threads, Passes c t.start ⟨before, offset, cs⟩) →
    (∀ m, best = some m → Passes c m.start m.stop) → p.run before offset fr best cs = some m →
    Passes c m.start m.stop := by
  intro cs
  induction cs with
  | nil =>
    intro before offset fr best hc ht hb h
    rw [run_nil] at h
    rcases better_cases h with h | ⟨t, ha, rfl⟩
    · exact hb m h
    · rcases mem_arrived ha with ha | ha
      · exact ht t ha
      · exact ⟨_, hc, ha.symm, .refl⟩
  | cons x cs ih =>
    intro before offset fr best hc ht hb h
    have hnext : Cursor.Leads ⟨before, offset, x :: cs⟩ ⟨some x, offset + x.utf8Size, cs⟩ := .single rfl
    have harr : ∀ t ∈ p.arrived before offset fr best (some x), Passes c t.start ⟨before, offset, x :: cs⟩ := by
      intro t ha
      rcases mem_arrived ha with ha | ha
      · exact ht t ha
      · exact ⟨_, hc, ha.symm, .refl⟩
    rw [run_cons] at h
    refine ih (hc.trans hnext) (fun u hu => ?_) (fun m hm => ?_) h
    · obtain ⟨t, ha, hs⟩ := mem_onward hu
      obtain ⟨d, hd, ho, hd'⟩ := harr t ha
      exact ⟨d, hd, ho.trans hs.symm, hd'.trans hnext⟩
    · rcases better_cases hm with hm | ⟨t, ha, rfl⟩
      · exact hb m hm
      · exact harr t ha

/-- A match starts at a place at or after that of the search, and ends at or after its start. -/
theorem find?_leads {c : Cursor} {m : Found} (h : p.find? c = some m) :
    ∃ d : Cursor, c.Leads d ∧ d.offset = m.start ∧ d.Leads m.stop :=
  run_passes (c := c) c.rest (.refl : c.Leads c) (by simp) (by simp) h

theorem find?_reaches {c : Cursor} {m : Found} (h : p.find? c = some m) : c.Reaches m.stop := by
  obtain ⟨d, hd, -, hd'⟩ := find?_leads h
  exact hd.reaches.trans hd'.reaches

theorem find?_le {c : Cursor} {m : Found} (h : p.find? c = some m) :
    c.offset ≤ m.start ∧ m.start ≤ m.stop.offset := by
  obtain ⟨d, hd, ho, hd'⟩ := find?_leads h
  rw [← ho]
  exact ⟨hd.reaches.le, hd'.reaches.le⟩

end Program

/-! ## The offset of the search -/

/-- The thread with its start counted from `k` bytes earlier. -/
def Thread.shift (k : Nat) (t : Thread) : Thread := ⟨t.address, k + t.start⟩

def Frontier.shift (k : Nat) (fr : Frontier) : Frontier := ⟨fr.visited, fr.threads.map (Thread.shift k)⟩

def Found.shift (k : Nat) (m : Found) : Found := ⟨k + m.start, ⟨m.stop.before, k + m.stop.offset, m.stop.rest⟩⟩

namespace Program

variable (p : Program) (k : Nat)

theorem mark_shift (start address : Nat) (fr : Frontier) :
    p.mark (k + start) address (fr.shift k) = (p.mark start address fr).shift k := by
  unfold mark
  split <;> rfl

theorem follow_shift (before after : Option Char) (start fuel : Nat) : ∀ (address : Nat) (fr : Frontier),
    p.follow before after (k + start) fuel address (fr.shift k) = (p.follow before after start fuel address fr).shift k := by
  induction fuel with
  | zero => intro _ _; rfl
  | succ fuel ih =>
    intro address fr
    have hv : (fr.shift k).isVisited address = fr.isVisited address := rfl
    rw [follow_succ, follow_succ, hv]
    split
    · rfl
    · rw [mark_shift]
      generalize p.mark start address fr = fr'
      induction p.steps before after address generalizing fr' with
      | nil => rfl
      | cons b bs ihs =>
        simp only [List.foldl_cons]
        rw [ih, ihs]

theorem settle_shift (ts : List Thread) :
    p.settle (ts.map (Thread.shift k)) = ((p.settle ts).1.map (Thread.shift k), (p.settle ts).2.map (k + ·)) := by
  induction ts with
  | nil => rfl
  | cons t ts ih =>
    rw [List.map_cons, settle, settle]
    simp only [Thread.shift]
    split
    · rfl
    · simp [ih, Thread.shift]

theorem arrived_shift (before : Option Char) (offset : Nat) (fr : Frontier) (best : Option Found)
    (after : Option Char) : p.arrived before (k + offset) (fr.shift k) (best.map (Found.shift k)) after =
      (p.arrived before offset fr best after).map (Thread.shift k) := by
  simp only [arrived, enter, Option.isSome_map]
  split
  · simp [Frontier.shift]
  · rw [follow_shift]
    simp [Frontier.shift]

theorem better_shift (before : Option Char) (offset : Nat) (fr : Frontier) (best : Option Found) (rest : List Char) :
    p.better before (k + offset) (fr.shift k) (best.map (Found.shift k)) rest =
      (p.better before offset fr best rest).map (Found.shift k) := by
  simp only [better, arrived_shift, settle_shift]
  cases (p.settle (p.arrived before offset fr best rest.head?)).2 <;> rfl

theorem foldl_advance_shift (c : Char) (after : Option Char) (ts : List Thread) : ∀ fr : Frontier,
    (ts.map (Thread.shift k)).foldl (p.advance c after) (fr.shift k) = (ts.foldl (p.advance c after) fr).shift k := by
  induction ts with
  | nil => intro _; rfl
  | cons t ts ih =>
    intro fr
    have ht : p.advance c after (fr.shift k) (t.shift k) = (p.advance c after fr t).shift k := by
      simp only [advance, Thread.shift]
      split
      · split
        · rw [follow_shift]
        · rfl
      · rfl
    rw [List.map_cons, List.foldl_cons, ht, ih, List.foldl_cons]

theorem run_shift (cs : List Char) : ∀ (before : Option Char) (offset : Nat) (fr : Frontier) (best : Option Found),
    p.run before (k + offset) (fr.shift k) (best.map (Found.shift k)) cs =
      (p.run before offset fr best cs).map (Found.shift k) := by
  induction cs with
  | nil => intro _ _ _ _; rw [run_nil, run_nil, better_shift]
  | cons c cs ih =>
    intro before offset fr best
    have hon : p.onward before (k + offset) (fr.shift k) (best.map (Found.shift k)) c cs =
        (p.onward before offset fr best c cs).shift k := by
      rw [onward, arrived_shift, settle_shift]
      exact p.foldl_advance_shift k c cs.head? _ (.start p.code.size)
    rw [run_cons, run_cons, better_shift, hon, Nat.add_assoc, ih]

/-- A search gives the same match wherever the offsets are counted from. -/
theorem find?_shift (c : Cursor) :
    p.find? ⟨c.before, k + c.offset, c.rest⟩ = (p.find? c).map (Found.shift k) :=
  p.run_shift k c.rest c.before c.offset (.start p.code.size) none

end Program

end PatternLint.Regex
