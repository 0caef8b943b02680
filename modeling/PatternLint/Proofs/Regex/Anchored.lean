import PatternLint.Proofs.Regex.FindAll
/-!
# Matches that start at one place

A search that starts threads at its first place only finds what the full search finds there, and nothing if that starts
further on (`find?_pinned`). Where no match starts, the search may as well begin one character later
(`find?_of_not_here`).
-/
namespace PatternLint.Regex

namespace Program

/-- The program with new threads at the beginning of a text only. -/
def pinned (p : Program) : Program := { p with anchored := true }

variable {p : Program} {before : Option Char} {offset : Nat} {fr : Frontier} {best : Option Found}

/-! ## Threads of one place -/

/-- A walk puts its threads before those that are there. -/
theorem follow_threads_append (p : Program) (before after : Option Char) (start fuel address : Nat) (fr : Frontier) :
    ∃ ts, (p.follow before after start fuel address fr).threads = ts ++ fr.threads ∧ ∀ t ∈ ts, t.start = start := by
  refine p.follow_rel before after start
    (R := fun x y => ∃ ts, y.threads = ts ++ x.threads ∧ ∀ t ∈ ts, t.start = start)
    (fun _ => ⟨[], rfl, by simp⟩) ?_ (fun a fr _ => ?_) fuel address fr
  · rintro x y z ⟨ts, hy, hts⟩ ⟨us, hz, hus⟩
    refine ⟨us ++ ts, by rw [hz, hy, List.append_assoc], fun t ht => ?_⟩
    exact (List.mem_append.1 ht).elim (hus t) (hts t)
  · rw [threads_mark]
    split
    · exact ⟨[⟨a, start⟩], rfl, by simp⟩
    · exact ⟨[], rfl, by simp⟩

theorem enter_threads_append (p : Program) (before after : Option Char) (offset : Nat) (best : Option Found)
    (fr : Frontier) :
    ∃ ts, (p.enter before after offset best fr).threads = ts ++ fr.threads ∧ ∀ t ∈ ts, t.start = offset := by
  unfold enter
  split
  · exact ⟨[], rfl, by simp⟩
  · exact p.follow_threads_append _ _ _ _ _ _

theorem foldl_advance_append (p : Program) (c : Char) (after : Option Char) (us : List Thread) : ∀ fr : Frontier,
    ∃ ts, (us.foldl (p.advance c after) fr).threads = ts ++ fr.threads ∧ ∀ t ∈ ts, ∃ u ∈ us, t.start = u.start := by
  induction us with
  | nil => intro fr; exact ⟨[], rfl, by simp⟩
  | cons u us ih =>
    intro fr
    have hu : ∃ ts, (p.advance c after fr u).threads = ts ++ fr.threads ∧ ∀ t ∈ ts, t.start = u.start := by
      unfold advance
      split
      · split
        · exact p.follow_threads_append _ _ _ _ _ _
        · exact ⟨[], rfl, by simp⟩
      · exact ⟨[], rfl, by simp⟩
    obtain ⟨ts, hts, hstart⟩ := hu
    obtain ⟨vs, hvs, hstarts⟩ := ih (p.advance c after fr u)
    refine ⟨vs ++ ts, by rw [List.foldl_cons, hvs, hts, List.append_assoc], fun t ht => ?_⟩
    rcases List.mem_append.1 ht with ht | ht
    · obtain ⟨v, hv, hs⟩ := hstarts t ht
      exact ⟨v, List.mem_cons_of_mem _ hv, hs⟩
    · exact ⟨u, List.mem_cons_self, hstart t ht⟩

/-! ## The first place alone -/

theorem follow_pinned (before after : Option Char) (start fuel : Nat) : ∀ (address : Nat) (fr : Frontier),
    p.pinned.follow before after start fuel address fr = p.follow before after start fuel address fr := by
  induction fuel with
  | zero => intro _ _; rfl
  | succ fuel ih =>
    intro address fr
    rw [follow_succ, follow_succ]
    simp only [ih]
    rfl

theorem settle_pinned (ts : List Thread) : p.pinned.settle ts = p.settle ts := by
  induction ts with
  | nil => rfl
  | cons t ts ih =>
    rw [settle, settle, ih]
    rfl

theorem advance_pinned (c : Char) (after : Option Char) : p.pinned.advance c after = p.advance c after := by
  funext fr t
  unfold advance
  simp only [follow_pinned]
  rfl

/-- With a match at hand no search starts new threads. -/
theorem run_pinned_some : ∀ (cs : List Char) {before offset fr} {b : Found},
    p.pinned.run before offset fr (some b) cs = p.run before offset fr (some b) cs := by
  intro cs
  induction cs with
  | nil =>
    intro before offset fr b
    rw [run_nil, run_nil, better, better, settle_pinned]
    rfl
  | cons c cs ih =>
    intro before offset fr b
    have hb : p.pinned.better before offset fr (some b) (c :: cs) = p.better before offset fr (some b) (c :: cs) := by
      rw [better, better, settle_pinned]
      rfl
    have ho : p.pinned.onward before offset fr (some b) c cs = p.onward before offset fr (some b) c cs := by
      rw [onward, onward, settle_pinned, advance_pinned]
      rfl
    rw [run_cons, run_cons, hb, ho]
    cases hbt : p.better before offset fr (some b) (c :: cs) with
    | none =>
      unfold better at hbt
      split at hbt <;> cases hbt
    | some b' => exact ih

theorem arrived_pinned (x : Char) (offset : Nat) (e : Frontier) (best : Option Found) (after : Option Char) :
    p.pinned.arrived (some x) offset e best after = e.threads.reverse := by
  simp [arrived, enter, pinned]

/-- New threads come behind those that are there. -/
theorem arrived_behind (p : Program) (before : Option Char) (best : Option Found) (after : Option Char) {n : Nat}
    {e : Frontier} {later : List Thread} (hn : n ≤ offset) (hfr : fr.threads = later ++ e.threads)
    (hlater : ∀ t ∈ later, n ≤ t.start) :
    ∃ ts, p.arrived before offset fr best after = e.threads.reverse ++ ts ∧ ∀ t ∈ ts, n ≤ t.start := by
  obtain ⟨new, hnew, hstart⟩ := p.enter_threads_append before after offset best fr
  refine ⟨later.reverse ++ new.reverse, by simp [arrived, hnew, hfr], fun t ht => ?_⟩
  rcases List.mem_append.1 ht with ht | ht
  · exact hlater t (List.mem_reverse.1 ht)
  · rw [hstart t (List.mem_reverse.1 ht)]
    exact hn

/-- What the older threads settle at a place is what all of them settle there, if that starts before `n`. -/
theorem better_pinned {n : Nat} {x : Char} (rest : List Char) {e : Frontier} {ts : List Thread}
    (he : ∀ t ∈ e.threads, t.start < n) (hbest : ∀ m, best = some m → n ≤ m.start)
    (hts : p.arrived (some x) offset fr best rest.head? = e.threads.reverse ++ ts) (hstart : ∀ t ∈ ts, n ≤ t.start) :
    p.pinned.better (some x) offset e none rest = (p.better (some x) offset fr best rest).filter (·.start < n) := by
  simp only [better, arrived_pinned, settle_pinned, hts]
  cases hd : (p.settle e.threads.reverse).2 with
  | some s =>
    obtain ⟨t, ht, rfl, -⟩ := p.settle_won hd
    simp [settle_append_of_some p hd, hd, Option.filter_some, he t (List.mem_reverse.1 ht)]
  | none =>
    rw [settle_append_of_none p hd]
    cases hl : (p.settle ts).2 with
    | some s =>
      obtain ⟨t, ht, rfl, -⟩ := p.settle_won hl
      simp [Option.filter_some, hstart t ht]
    | none =>
      cases best with
      | none => rfl
      | some b => simp [Option.filter_some, hbest b rfl]

/-- Where one of the older threads ends, all later ones are dropped. -/
theorem run_pinned_of_won {n s : Nat} {x c : Char} {cs : List Char} {e : Frontier} {ts : List Thread}
    (he : ∀ t ∈ e.threads, t.start < n)
    (hts : p.arrived (some x) offset fr best (some c) = e.threads.reverse ++ ts)
    (hd : (p.settle e.threads.reverse).2 = some s) :
    p.pinned.run (some x) offset e none (c :: cs) =
      (p.run (some x) offset fr best (c :: cs)).filter (·.start < n) := by
  obtain ⟨t, ht, rfl, -⟩ := p.settle_won hd
  have ht := he t (List.mem_reverse.1 ht)
  have hb : p.better (some x) offset fr best (c :: cs) = some ⟨t.start, ⟨some x, offset, c :: cs⟩⟩ := by
    simp [better, hts, settle_append_of_some p hd, hd]
  have hb' : p.pinned.better (some x) offset e none (c :: cs) = some ⟨t.start, ⟨some x, offset, c :: cs⟩⟩ := by
    simp [better, arrived_pinned, settle_pinned, hd]
  have ho : p.onward (some x) offset fr best c cs =
      (p.settle e.threads.reverse).1.foldl (p.advance c cs.head?) (.start p.code.size) := by
    rw [onward, hts, settle_append_of_some p hd]
  have ho' : p.pinned.onward (some x) offset e none c cs = p.onward (some x) offset fr best c cs := by
    rw [ho, onward, arrived_pinned, settle_pinned, advance_pinned]
    rfl
  have hlive : ∀ u ∈ (p.onward (some x) offset fr best c cs).threads, u.start < n := by
    intro u hu
    rw [ho] at hu
    rcases mem_foldl_advance hu with hu | ⟨v, hv, hs⟩
    · simp at hu
    · rw [hs]
      exact he v (List.mem_reverse.1 (p.settle_mem hv))
  obtain ⟨m, hm, hlt⟩ : ∃ m, p.run (some c) (offset + c.utf8Size) (p.onward (some x) offset fr best c cs)
    (some ⟨t.start, ⟨some x, offset, c :: cs⟩⟩) cs = some m ∧ m.start < n := run_start_lt cs hlive ht
  rw [run_cons, run_cons, hb, hb', ho', run_pinned_some, hm]
  simp [Option.filter_some, hlt]

/-- Behind threads that started before `n`, the full search finds what these find alone, or else a match that starts at
`n` or later. -/
theorem run_pinned {n : Nat} : ∀ (cs : List Char) {x : Char} {offset best} {e fr : Frontier} {later : List Thread},
    n ≤ offset → fr.threads = later ++ e.threads → (∀ t ∈ e.threads, t.start < n) → (∀ t ∈ later, n ≤ t.start) →
    (∀ m, best = some m → n ≤ m.start) →
    p.pinned.run (some x) offset e none cs = (p.run (some x) offset fr best cs).filter (·.start < n) := by
  intro cs
  induction cs with
  | nil =>
    intro x offset best e fr later hn hfr he hlater hbest
    obtain ⟨ts, hts, hstart⟩ := p.arrived_behind (some x) best none hn hfr hlater
    rw [run_nil, run_nil]
    exact better_pinned [] he hbest hts hstart
  | cons c cs ih =>
    intro x offset best e fr later hn hfr he hlater hbest
    have hnext : n ≤ offset + c.utf8Size := Nat.le_add_right_of_le hn
    obtain ⟨ts, hts, hstart⟩ := p.arrived_behind (some x) best (some c) hn hfr hlater
    cases hd : (p.settle e.threads.reverse).2 with
    | some s => exact run_pinned_of_won he hts hd
    | none =>
      have hb' : p.pinned.better (some x) offset e none (c :: cs) = none := by
        simp [better, arrived_pinned, settle_pinned, hd]
      have ho' : p.pinned.onward (some x) offset e none c cs =
          e.threads.reverse.foldl (p.advance c cs.head?) (.start p.code.size) := by
        rw [onward, arrived_pinned, settle_pinned, advance_pinned, (p.settle_of_none hd).1]
        rfl
      obtain ⟨later', hlater', hstart'⟩ := p.foldl_advance_append c cs.head? (p.settle ts).1
        (e.threads.reverse.foldl (p.advance c cs.head?) (.start p.code.size))
      rw [run_cons, run_cons, hb', ho']
      refine ih hnext (?_ : _ = later' ++ _) (fun u hu => ?_) (fun u hu => ?_) (fun m hm => ?_)
      · rw [onward, hts, settle_append_of_none p hd, List.foldl_append, hlater']
      · rcases mem_foldl_advance hu with hu | ⟨v, hv, hs⟩
        · simp at hu
        · rw [hs]
          exact he v (List.mem_reverse.1 hv)
      · obtain ⟨v, hv, hs⟩ := hstart' u hu
        rw [hs]
        exact hstart v (p.settle_mem hv)
      · have hlate := better_pinned (c :: cs) he hbest hts hstart
        rw [hb', hm, Option.filter_some, eq_comm, ite_eq_right_iff] at hlate
        by_contra hlt
        cases hlate (by simpa using hlt)

/-! ## The first place of a search -/

theorem find?_nil {c : Cursor} (h : c.rest = []) :
    p.find? c = p.better c.before c.offset (.start p.code.size) none [] := by
  rw [find?, h, run_nil]

theorem find?_cons {c : Cursor} {x : Char} {xs : List Char} (h : c.rest = x :: xs) :
    p.find? c = p.run (some x) (c.offset + x.utf8Size) (p.onward c.before c.offset (.start p.code.size) none x xs)
      (p.better c.before c.offset (.start p.code.size) none (x :: xs)) xs := by
  rw [find?, h, run_cons]

/-- A thread that goes on from the first place started there. -/
theorem mem_onward_start {c : Char} {cs : List Char} {u : Thread}
    (h : u ∈ (p.onward before offset (.start p.code.size) none c cs).threads) : u.start = offset := by
  obtain ⟨t, ht, hs⟩ := mem_onward h
  rw [hs]
  exact (mem_arrived ht).resolve_left (by simp)

theorem better_start {rest : List Char} {m : Found}
    (h : p.better before offset (.start p.code.size) none rest = some m) : m.start = offset := by
  rcases better_cases h with h | ⟨t, ht, rfl⟩
  · cases h
  · exact (mem_arrived ht).resolve_left (by simp)

/-- After a match at the first place, only threads that started there can replace it. -/
theorem find?_of_better {c : Cursor} {x : Char} {xs : List Char} {b : Found} (h : c.rest = x :: xs)
    (hb : p.better c.before c.offset (.start p.code.size) none (x :: xs) = some b) :
    ∃ m, p.find? c = some m ∧ m.start = c.offset := by
  obtain ⟨m, hm, hlt⟩ : ∃ m, p.run (some x) (c.offset + x.utf8Size)
      (p.onward c.before c.offset (.start p.code.size) none x xs) (some b) xs = some m ∧ m.start < c.offset + 1 :=
    run_start_lt xs (fun u hu => by rw [mem_onward_start hu]; omega) (by rw [better_start hb]; omega)
  rw [← hb, ← find?_cons h] at hm
  have hle := (find?_le hm).1
  exact ⟨m, hm, by omega⟩

section Start
variable (p) (hb : before = none) (offset : Nat)
include hb

/-- The first place is the same for both searches. -/
theorem arrived_pinned_start (after : Option Char) :
    p.pinned.arrived before offset (.start p.pinned.code.size) none after =
      p.arrived before offset (.start p.code.size) none after := by
  simp only [arrived, enter, hb, Option.isSome_none, Bool.and_false, Bool.or_false, follow_pinned]
  rfl

theorem better_pinned_start (rest : List Char) :
    p.pinned.better before offset (.start p.pinned.code.size) none rest =
      p.better before offset (.start p.code.size) none rest := by
  rw [better, better, settle_pinned, arrived_pinned_start p hb]

theorem onward_pinned_start (c : Char) (cs : List Char) :
    p.pinned.onward before offset (.start p.pinned.code.size) none c cs =
      p.onward before offset (.start p.code.size) none c cs := by
  rw [onward, onward, settle_pinned, advance_pinned, arrived_pinned_start p hb]
  rfl

end Start

/-- A search pinned to the beginning of a text finds the match of the full search if it starts there. -/
theorem find?_pinned (p : Program) {c : Cursor} (hc : c.before = none) :
    p.pinned.find? c = (p.find? c).filter (·.start = c.offset) := by
  have hbetter := p.better_pinned_start hc c.offset
  cases hrest : c.rest with
  | nil =>
    rw [find?_nil hrest, find?_nil hrest, hbetter]
    cases hb : p.better c.before c.offset (.start p.code.size) none [] with
    | none => rfl
    | some m => simp [Option.filter_some, better_start hb]
  | cons x xs =>
    rw [find?_cons hrest, hbetter, p.onward_pinned_start hc]
    cases hb : p.better c.before c.offset (.start p.code.size) none (x :: xs) with
    | some b =>
      obtain ⟨m, hm, hs⟩ := find?_of_better hrest hb
      rw [run_pinned_some, ← hb, ← find?_cons hrest, hm]
      simp [Option.filter_some, hs]
    | none =>
      have hx := Char.utf8Size_pos x
      have hstart : ∀ u ∈ (p.onward c.before c.offset (.start p.code.size) none x xs).threads,
          u.start < c.offset + 1 := fun u hu => by rw [mem_onward_start hu]; omega
      have hfind := find?_cons (p := p) hrest
      rw [hb] at hfind
      have hpinned : p.pinned.run (some x) (c.offset + x.utf8Size)
          (p.onward c.before c.offset (.start p.code.size) none x xs) none xs =
            (p.find? c).filter (·.start < c.offset + 1) := by
        rw [hfind]
        refine run_pinned xs (by omega) (List.nil_append _).symm hstart ?_ ?_
        · intro t ht
          cases ht
        · intro m hm
          cases hm
      rw [hpinned]
      cases hf : p.find? c with
      | none => rfl
      | some m =>
        have hle := (find?_le hf).1
        have hiff : m.start < c.offset + 1 ↔ m.start = c.offset := by omega
        simp only [Option.filter_some, hiff]

/-- Where no match starts, a search may as well begin with the next character. -/
theorem find?_of_not_here {c : Cursor} (h : ∀ m, p.find? c = some m → m.start ≠ c.offset) :
    p.find? c = c.next?.bind p.find? := by
  cases hrest : c.rest with
  | nil =>
    have hnext : c.next? = none := by simp [Cursor.next?, hrest]
    rw [hnext]
    cases hf : p.find? c with
    | none => rfl
    | some m => exact absurd (better_start (by rw [← find?_nil hrest, hf])) (h m hf)
  | cons x xs =>
    have hnext : c.next? = some ⟨some x, c.offset + x.utf8Size, xs⟩ := by simp [Cursor.next?, hrest]
    cases hb : p.better c.before c.offset (.start p.code.size) none (x :: xs) with
    | some b =>
      obtain ⟨m, hm, hs⟩ := find?_of_better hrest hb
      exact absurd hs (h m hm)
    | none =>
      -- the threads of the first place stand before those of a search from the second
      have hcomplete : p.Complete (some x) xs.head? (p.onward c.before c.offset (.start p.code.size) none x xs) :=
        Complete.foldl_advance _ (p.complete_start _ _)
      have hstart : ∀ u ∈ (p.onward c.before c.offset (.start p.code.size) none x xs).threads,
          u.start < c.offset + 1 := fun u hu => by rw [mem_onward_start hu]; omega
      have hfind := find?_cons (p := p) hrest
      rw [hb] at hfind
      rw [hfind, hnext]
      rcases run_shadow xs hcomplete hstart (Shadow.refl_start hcomplete.size) with hr | ⟨m, hm, hlt⟩
      · exact hr
      · rw [← hfind] at hm
        have hle := (find?_le hm).1
        exact absurd (by omega) (h m hm)

end Program

end PatternLint.Regex
