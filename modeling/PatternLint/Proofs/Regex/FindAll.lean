import Mathlib.Data.List.Chain
import PatternLint.Proofs.Regex.Search
/-!
# All matches of a pattern

A search from the place where a match starts finds the match again (`find?_restart`): threads that started earlier
take instructions away from later ones, but never one that leads to a match. So the matches that `findAll` gives are
in order, do not overlap, and none is empty where the one before it ends (`findAll_precedes`).
-/
namespace PatternLint.Regex

/-- The span of a match. -/
def Found.span (m : Found) : Span := ⟨m.start, m.stop.offset⟩

namespace Program

variable {p : Program} {before : Option Char} {offset : Nat} {fr : Frontier} {best : Option Found}

/-! ## A search from the start of a match finds the match -/

/-- Once a match is found, only older threads can replace it. -/
theorem run_start_lt {n : Nat} : ∀ (cs : List Char) {before offset fr} {b : Found},
    (∀ t ∈ fr.threads, t.start < n) → b.start < n →
    ∃ m, p.run before offset fr (some b) cs = some m ∧ m.start < n := by
  intro cs
  induction cs with
  | nil =>
    intro before offset fr b ht hb
    rw [run_nil]
    unfold better
    split
    · next s hs =>
      obtain ⟨t, ha, rfl, -⟩ := p.settle_won hs
      exact ⟨_, rfl, ht t (by simpa [arrived, enter] using ha)⟩
    · exact ⟨b, rfl, hb⟩
  | cons x cs ih =>
    intro before offset fr b ht hb
    have harr : ∀ t ∈ p.arrived before offset fr (some b) (some x), t.start < n :=
      fun t ha => ht t (by simpa [arrived, enter] using ha)
    have hon : ∀ u ∈ (p.onward before offset fr (some b) x cs).threads, u.start < n := by
      intro u hu
      obtain ⟨t, ha, hs⟩ := mem_onward hu
      rw [hs]
      exact harr t ha
    rw [run_cons]
    cases hbt : p.better before offset fr (some b) (x :: cs) with
    | none =>
      unfold better at hbt
      split at hbt <;> cases hbt
    | some b' =>
      refine ih hon ?_
      rcases better_cases hbt with hb' | ⟨t, ha, rfl⟩
      · cases hb'
        exact hb
      · exact harr t ha

theorem Complete.advance {c : Char} {after : Option Char} (h : p.Complete (some c) after fr) (t : Thread) :
    p.Complete (some c) after (p.advance c after fr t) := by
  unfold Program.advance
  split
  · split
    · exact h.follow _ _
    · exact h
  · exact h

theorem Complete.foldl_advance {c : Char} {after : Option Char} (ts : List Thread) :
    ∀ {fr : Frontier}, p.Complete (some c) after fr → p.Complete (some c) after (ts.foldl (p.advance c after) fr) := by
  induction ts with
  | nil => intro _ h; exact h
  | cons t ts ih => intro _ h; exact ih (h.advance t)

/-- A thread that consumes the character comes to the next instruction. -/
theorem foldl_advance_visits {c : Char} {after : Option Char} {ts : List Thread} {t : Thread} {s : CharSet}
    (ht : t ∈ ts) (hs : p.code[t.address]? = some (.char s)) (hc : s.contains c = true) :
    ∀ {fr : Frontier}, p.Complete (some c) after fr →
      (ts.foldl (p.advance c after) fr).isVisited (t.address + 1) = true := by
  induction ts with
  | nil => simp at ht
  | cons u ts ih =>
    intro fr hfr
    rcases List.mem_cons.1 ht with rfl | ht
    · have hv : (p.advance c after fr t).isVisited (t.address + 1) = true := by
        rw [Program.advance, hs]
        simp only [hc, if_true]
        exact (p.follow_visits _ _ _ _ _ _ (fr.card_left_le.trans hfr.size.le)).1
      have hkeep : ∀ (us : List Thread) (fr : Frontier), fr.isVisited (t.address + 1) = true →
          (us.foldl (p.advance c after) fr).isVisited (t.address + 1) = true := by
        intro us
        induction us with
        | nil => intro _ h; exact h
        | cons v us ihu =>
          intro fr h
          refine ihu _ ?_
          unfold Program.advance
          split
          · split
            · exact p.follow_keeps _ _ _ _ _ _ h
            · exact h
          · exact h
      exact hkeep ts _ hv
    · exact ih ht (hfr.advance u)

section Shadow
variable {e x y : Frontier} {c : Char} {after : Option Char}

theorem Shadow.advance (he : p.Complete (some c) after e) (h : Shadow e x y) (t : Thread) :
    Shadow e (p.advance c after x t) (p.advance c after y t) := by
  unfold Program.advance
  split
  · split
    · exact h.follow he _ _
    · exact h
  · exact h

theorem Shadow.advance_right (he : p.Complete (some c) after e) (h : Shadow e x y) {t : Thread}
    (ht : ∀ s, p.code[t.address]? = some (.char s) → s.contains c = true → e.isVisited (t.address + 1) = true) :
    Shadow e x (p.advance c after y t) := by
  unfold Program.advance
  split
  · next s hs =>
    split
    · next hc => exact h.follow_right he _ _ (ht s hs hc)
    · exact h
  · exact h

/-- Threads that only `y` has, and that come to where `e` came already, keep `x` behind. -/
theorem Shadow.foldl_advance (he : p.Complete (some c) after e) (q : Thread → Bool) (ts : List Thread)
    (hq : ∀ t ∈ ts, q t = false → ∀ s, p.code[t.address]? = some (.char s) → s.contains c = true →
      e.isVisited (t.address + 1) = true) :
    ∀ {x y : Frontier}, Shadow e x y →
      Shadow e ((ts.filter q).foldl (p.advance c after) x) (ts.foldl (p.advance c after) y) := by
  induction ts with
  | nil => intro _ _ h; exact h
  | cons t ts ih =>
    intro x y h
    have hq' := fun u hu => hq u (List.mem_cons_of_mem t hu)
    cases hqt : q t with
    | true =>
      rw [List.filter_cons_of_pos hqt]
      exact ih hq' (h.advance he t)
    | false =>
      rw [List.filter_cons_of_neg (by simp [hqt])]
      exact ih hq' (h.advance_right he (hq t List.mem_cons_self hqt))

end Shadow

theorem Shadow.enter {e x y : Frontier} {after : Option Char} (he : p.Complete before after e) (h : Shadow e x y) :
    Shadow e (p.enter before after offset best x) (p.enter before after offset best y) := by
  unfold Program.enter
  split
  · exact h
  · exact h.follow he _ _

/-- What settling a place does to a frontier behind another, if none of the threads before it ends. -/
theorem Shadow.settle {e x y : Frontier} {after : Option Char} (he : p.Complete before after e) (h : Shadow e x y)
    (hd : (p.settle e.threads.reverse).2 = none) :
    p.settle (p.arrived before offset x best after) =
      (e.threads.reverse ++ (p.settle (p.arrived before offset y best after)).1.filter
        (fun t => !e.isVisited t.address), (p.settle (p.arrived before offset y best after)).2) := by
  have hx : p.arrived before offset x best after =
      e.threads.reverse ++ (p.arrived before offset y best after).filter (fun t => !e.isVisited t.address) := by
    rw [arrived, (h.enter he).threads, List.reverse_append, arrived, List.filter_reverse]
  rw [hx, settle_append_of_none p hd, settle_filter]
  -- a thread that ends where `e` was would be a thread of `e` that ends
  intro t _ hq hdone
  obtain ⟨u, hu, hut⟩ := he.thread t.address (by simp [stops, hdone]) (by simpa using hq)
  exact (p.settle_of_none hd).2 u (by simpa using hu) (by rw [hut, hdone])

theorem Shadow.settle_of_some {e x y : Frontier} {after : Option Char} {s : Nat} (he : p.Complete before after e)
    (h : Shadow e x y) (hd : (p.settle e.threads.reverse).2 = some s) :
    p.settle (p.arrived before offset x best after) = p.settle e.threads.reverse := by
  rw [arrived, (h.enter he).threads, List.reverse_append, settle_append_of_some p hd]

/-- A thread of `e` that ends decides the search, and was there before the others. -/
theorem Shadow.run_of_some {n s : Nat} {cs : List Char} {e x y : Frontier} (he : p.Complete before cs.head? e)
    (ht : ∀ t ∈ e.threads, t.start < n) (h : Shadow e x y) (hd : (p.settle e.threads.reverse).2 = some s) :
    ∃ m, p.run before offset x best cs = some m ∧ m.start < n := by
  obtain ⟨t, hm, rfl, -⟩ := p.settle_won hd
  have hs : p.settle (p.arrived before offset x best cs.head?) = p.settle e.threads.reverse := h.settle_of_some he hd
  have hb : p.better before offset x best cs = some ⟨t.start, ⟨before, offset, cs⟩⟩ := by simp [better, hs, hd]
  have hlt : t.start < n := ht t (by simpa using hm)
  cases cs with
  | nil => exact ⟨_, by rw [run_nil, hb], hlt⟩
  | cons c cs =>
    rw [run_cons, hb]
    refine run_start_lt cs (fun u hu => ?_) hlt
    simp only [List.head?_cons] at hs
    rw [Program.onward, hs] at hu
    rcases mem_foldl_advance hu with hu | ⟨v, hv, hst⟩
    · simp at hu
    · rw [hst]
      exact ht v (by simpa using p.settle_mem hv)

/-- Without such a thread the threads of `e` go on first, and what they come to is again before the others. -/
theorem Shadow.onward {n : Nat} {c : Char} (cs : List Char) {e x y : Frontier} (he : p.Complete before (some c) e)
    (ht : ∀ t ∈ e.threads, t.start < n) (h : Shadow e x y) (hd : (p.settle e.threads.reverse).2 = none) :
    let e' := e.threads.reverse.foldl (p.advance c cs.head?) (.start p.code.size)
    p.Complete (some c) cs.head? e' ∧ (∀ t ∈ e'.threads, t.start < n) ∧
      Shadow e' (p.onward before offset x best c cs) (p.onward before offset y best c cs) := by
  intro e'
  have he' : p.Complete (some c) cs.head? e' := Complete.foldl_advance _ (p.complete_start _ _)
  have hx : p.onward before offset x best c cs =
      ((p.settle (p.arrived before offset y best (some c))).1.filter (fun t => !e.isVisited t.address)).foldl
        (p.advance c cs.head?) e' := by
    rw [Program.onward, h.settle he hd, List.foldl_append]
  refine ⟨he', fun u hu => ?_, ?_⟩
  · rcases mem_foldl_advance hu with hu | ⟨v, hv, hst⟩
    · simp at hu
    · rw [hst]
      exact ht v (by simpa using hv)
  · rw [hx]
    refine Shadow.foldl_advance he' _ _ ?_ (Shadow.refl_start he'.size)
    intro t _ hq s hcode hcs
    obtain ⟨u, hu, hut⟩ := he.thread t.address (by simp [stops, hcode]) (by simpa using hq)
    rw [← hut] at hcode ⊢
    exact foldl_advance_visits (by simpa using hu) hcode hcs (p.complete_start _ _)

/-- Behind threads that started before `n`, a search gives what it gives without them, or a match that starts
before `n`. -/
theorem run_shadow {n : Nat} : ∀ (cs : List Char) {before offset best} {e x y : Frontier},
    p.Complete before cs.head? e → (∀ t ∈ e.threads, t.start < n) → Shadow e x y →
    p.run before offset x best cs = p.run before offset y best cs ∨
      ∃ m, p.run before offset x best cs = some m ∧ m.start < n := by
  intro cs
  induction cs with
  | nil =>
    intro before offset best e x y he ht h
    cases hd : (p.settle e.threads.reverse).2 with
    | none => exact .inl (by simp only [run_nil, better, h.settle he hd])
    | some s => exact .inr (h.run_of_some he ht hd)
  | cons c cs ih =>
    intro before offset best e x y he ht h
    cases hd : (p.settle e.threads.reverse).2 with
    | some s => exact .inr (h.run_of_some he ht hd)
    | none =>
      have hs : p.settle (p.arrived before offset x best (some c)) = _ := h.settle he hd
      have hb : p.better before offset x best (c :: cs) = p.better before offset y best (c :: cs) := by
        simp only [better, List.head?_cons, hs]
      obtain ⟨he', ht', h'⟩ := h.onward cs he ht hd
      rw [run_cons, run_cons, hb]
      exact ih he' ht' h'

theorem run_restart {c d : Cursor} {m : Found} (hcd : c.Leads d) (ho : d.offset = m.start) : ∀ {fr : Frontier},
    p.Complete c.before c.rest.head? fr → (∀ t ∈ fr.threads, t.start < c.offset) →
    p.run c.before c.offset fr none c.rest = some m → p.find? d = some m := by
  induction hcd using Relation.ReflTransGen.head_induction_on with
  | refl =>
    intro fr hfr ht h
    rcases run_shadow d.rest hfr ht (Shadow.refl_start hfr.size) with hr | ⟨m', hr, hlt⟩
    · rw [find?, ← hr, h]
    · rw [h] at hr
      cases hr
      omega
  | @head c e hce hed ih =>
    intro fr hfr ht h
    obtain ⟨before, offset, rest⟩ := c
    cases rest with
    | nil => cases hce
    | cons x xs =>
      cases hce
      have hlt : offset < m.start := by
        have h1 := Char.utf8Size_pos x
        have h2 := (Cursor.Leads.reaches hed).le
        simp only at h2
        omega
      have harr : ∀ t ∈ p.arrived before offset fr none (some x), t.start < offset + 1 := by
        intro t ha
        rcases mem_arrived ha with ha | ha
        · have := ht t ha
          simp only at this
          omega
        · omega
      have hon : ∀ u ∈ (p.onward before offset fr none x xs).threads, u.start < offset + 1 := by
        intro u hu
        obtain ⟨t, ha, hs⟩ := mem_onward hu
        rw [hs]
        exact harr t ha
      simp only [run_cons] at h
      cases hb : p.better before offset fr none (x :: xs) with
      | none =>
        rw [hb] at h
        refine ih (Complete.foldl_advance _ (p.complete_start _ _)) (fun u hu => ?_) h
        have h1 := Char.utf8Size_pos x
        have h2 := hon u hu
        simp only
        omega
      | some b =>
        -- a match that starts here or earlier would keep the later one from being found
        exfalso
        have hbs : b.start < offset + 1 := by
          rcases better_cases hb with hb | ⟨t, ha, rfl⟩
          · cases hb
          · exact harr t ha
        rw [hb] at h
        obtain ⟨m', hm', hlt'⟩ : ∃ m', p.run (some x) (offset + x.utf8Size) (p.onward before offset fr none x xs)
            (some b) xs = some m' ∧ m'.start < offset + 1 := run_start_lt xs hon hbs
        rw [h] at hm'
        cases hm'
        omega

/-- A search from the place where a match starts finds the match again. -/
theorem find?_restart {c d : Cursor} {m : Found} (h : p.find? c = some m) (hcd : c.Leads d)
    (ho : d.offset = m.start) : p.find? d = some m :=
  run_restart hcd ho (p.complete_start _ _) (by simp) h

/-- An empty match is found again where it is. -/
theorem find?_stop_of_empty {c : Cursor} {m : Found} (h : p.find? c = some m) (he : m.start = m.stop.offset) :
    p.find? m.stop = some m := by
  obtain ⟨d, hd, ho, hd'⟩ := find?_leads h
  have : m.stop = d := hd'.eq_of_offset (by rw [ho, he])
  rw [this]
  exact find?_restart h hd ho

/-! ## All matches -/

theorem findFrom_eq_append (fuel : Nat) : ∀ (c : Cursor) (last : Option Nat) (found : List Found),
    p.findFrom c last found fuel = found.reverse ++ p.findFrom c last [] fuel := by
  induction fuel with
  | zero => intro _ _ _; simp [findFrom]
  | succ fuel ih =>
    intro c last found
    rw [findFrom, findFrom]
    split
    · simp
    · next m _ =>
      split
      · split
        · simp
        · next m' _ =>
          rw [ih _ _ (m' :: found), ih _ _ [m']]
          simp
      · rw [ih _ _ (m :: found), ih _ _ [m]]
        simp

/-- The next match from a place on, where `last` is the end of the one before. -/
def findNext? (p : Program) (c : Cursor) (last : Option Nat) : Option Found :=
  (p.find? c).bind fun m =>
    if m.start = m.stop.offset ∧ last = some m.stop.offset then c.next?.bind p.find? else some m

theorem findFrom_succ (c : Cursor) (last : Option Nat) (fuel : Nat) :
    p.findFrom c last [] (fuel + 1) = match p.findNext? c last with
      | none => []
      | some m => m :: p.findFrom m.stop (some m.stop.offset) [] fuel := by
  rw [findFrom, findNext?]
  cases p.find? c with
  | none => rfl
  | some m =>
    simp only [Option.bind_some]
    split
    · cases c.next?.bind p.find? with
      | none => rfl
      | some m' => exact findFrom_eq_append fuel _ _ [m']
    · exact findFrom_eq_append fuel _ _ [m]

/-- The next match is found from the place itself, or from the one after it. -/
theorem findNext?_cases {c : Cursor} {last : Option Nat} {m : Found} (h : p.findNext? c last = some m) :
    (p.find? c = some m ∧ (m.start = m.stop.offset → last ≠ some m.stop.offset)) ∨
      ∃ d, c.next? = some d ∧ p.find? d = some m := by
  obtain ⟨m', hm', h⟩ := Option.bind_eq_some_iff.1 h
  split at h
  · obtain ⟨d, hd, hm⟩ := Option.bind_eq_some_iff.1 h
    exact .inr ⟨d, hd, hm⟩
  · next hne =>
    cases h
    exact .inl ⟨hm', fun h1 h2 => hne ⟨h1, h2⟩⟩

/-- A match that `findNext?` gives was found by a search that started at or after the place. -/
theorem findNext?_find? {c : Cursor} {last : Option Nat} {m : Found} (h : p.findNext? c last = some m) :
    ∃ d, c.Leads d ∧ p.find? d = some m := by
  rcases findNext?_cases h with ⟨h, -⟩ | ⟨d, hd, h⟩
  · exact ⟨c, .refl, h⟩
  · exact ⟨d, .single hd, h⟩

theorem findNext?_precedes {b : Cursor} {a m : Found} (ha : p.find? b = some a)
    (h : p.findNext? a.stop (some a.stop.offset) = some m) : a.span.Precedes m.span := by
  have hle := (find?_le ha).2
  rcases findNext?_cases h with ⟨hm, hne⟩ | ⟨d, hd, hm⟩
  · have hm' := (find?_le hm).1
    by_cases hae : a.start = a.stop.offset
    · -- the same empty match again would have been left out
      rw [find?_stop_of_empty ha hae] at hm
      cases hm
      exact absurd rfl (hne hae)
    · refine ⟨by simp only [Found.span]; omega, hm', fun he => ?_⟩
      have : a.stop.offset ≠ m.stop.offset := fun h => hne he (by rw [h])
      simp only [Found.span] at he ⊢
      omega
  · have h1 := Cursor.next?_lt hd
    have h2 := (find?_le hm).1
    refine ⟨?_, ?_, fun _ => ?_⟩ <;> simp only [Found.span] <;> omega

theorem findFrom_chain (fuel : Nat) : ∀ {b : Cursor} {a : Found}, p.find? b = some a →
    ((a :: p.findFrom a.stop (some a.stop.offset) [] fuel).map Found.span).IsChain Span.Precedes := by
  induction fuel with
  | zero => intro _ _ _; simp [findFrom]
  | succ fuel ih =>
    intro b a ha
    rw [findFrom_succ]
    cases hm : p.findNext? a.stop (some a.stop.offset) with
    | none => simp
    | some m =>
      obtain ⟨d, -, hd⟩ := findNext?_find? hm
      have := ih hd
      simp only [List.map_cons, List.isChain_cons_cons] at this ⊢
      exact ⟨findNext?_precedes ha hm, this⟩

theorem mem_findFrom (fuel : Nat) {m : Found} : ∀ {c : Cursor} {last : Option Nat},
    m ∈ p.findFrom c last [] fuel → ∃ d : Cursor, c.Leads d ∧ p.find? d = some m := by
  induction fuel with
  | zero => intro _ _ h; simp [findFrom] at h
  | succ fuel ih =>
    intro c last h
    rw [findFrom_succ] at h
    cases hm : p.findNext? c last with
    | none => simp [hm] at h
    | some m' =>
      rw [hm] at h
      obtain ⟨d, hd, hf⟩ := findNext?_find? hm
      rcases List.mem_cons.1 h with rfl | h
      · exact ⟨d, hd, hf⟩
      · obtain ⟨e, he, hm⟩ := ih h
        obtain ⟨s, hs, -, hs'⟩ := find?_leads hf
        exact ⟨e, hd.trans (hs.trans (hs'.trans he)), hm⟩

/-- The matches of a search for all come one after the other. -/
theorem findAll_precedes (p : Program) (text : List Char) :
    ((p.findAll text).map Found.span).IsChain Span.Precedes := by
  rw [findAll, findFrom_succ]
  cases hm : p.findNext? (.start text) none with
  | none => simp
  | some m =>
    obtain ⟨d, -, hd⟩ := findNext?_find? hm
    exact findFrom_chain _ hd

/-- Every match lies in the text, between characters, and ends at or after its start. -/
theorem mem_findAll {text : List Char} {m : Found} (h : m ∈ p.findAll text) :
    ∃ d : Cursor, d.In text ∧ d.offset = m.start ∧ d.Reaches m.stop := by
  obtain ⟨c, hc, hm⟩ := mem_findFrom _ h
  obtain ⟨d, hd, ho, hd'⟩ := find?_leads hm
  exact ⟨d, Cursor.Leads.reaches (hc.trans hd), ho, hd'.reaches⟩

end Program

end PatternLint.Regex
