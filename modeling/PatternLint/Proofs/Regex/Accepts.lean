import PatternLint.Proofs.Regex.Anchored
import PatternLint.Proofs.Text.Reads
/-!
# What a program accepts

`Accepts` says that a program can come from an instruction at one place to its end at another, without threads or
preferences. A search finds nothing else (`find?_accepts`), and it finds something wherever the program accepts from its
first instruction (`find?_of_accepts`): threads that are dropped for others never lose the last way to a match. So the
match that is found starts at the first place from which the program accepts (`find?_leftmost`).
-/
namespace PatternLint.Regex.Program

/-- From an instruction at the first place the program comes to its end at the second, in so many steps. -/
inductive AcceptsIn (p : Program) : (steps address : Nat) → (c d : Cursor) → Prop
  | done {a : Nat} {c : Cursor} : p.code[a]? = some .done → p.AcceptsIn 0 a c c
  | step {n a b : Nat} {c d : Cursor} : b ∈ p.steps c.before c.after a → p.AcceptsIn n b c d → p.AcceptsIn (n + 1) a c d
  | char {n a : Nat} {s : CharSet} {x : Char} {c d e : Cursor} : p.code[a]? = some (.char s) → s.contains x = true →
      c.Reads [x] e → p.AcceptsIn n (a + 1) e d → p.AcceptsIn (n + 1) a c d

/-- From an instruction at the first place the program comes to its end at the second. -/
def Accepts (p : Program) (address : Nat) (c d : Cursor) : Prop := ∃ n, p.AcceptsIn n address c d

variable {p : Program} {a b : Nat} {c d e : Cursor}

theorem Accepts.step (hb : b ∈ p.steps c.before c.after a) (h : p.Accepts b c d) : p.Accepts a c d := by
  obtain ⟨n, h⟩ := h
  exact ⟨n + 1, .step hb h⟩

theorem Accepts.char {s : CharSet} {x : Char} (hs : p.code[a]? = some (.char s)) (hx : s.contains x = true)
    (hc : c.Reads [x] e) (h : p.Accepts (a + 1) e d) : p.Accepts a c d := by
  obtain ⟨n, h⟩ := h
  exact ⟨n + 1, .char hs hx hc h⟩

theorem AcceptsIn.leads {n : Nat} (h : p.AcceptsIn n a c d) : c.Leads d := by
  induction h with
  | done => exact .refl
  | step _ _ ih => exact ih
  | char _ _ hc _ ih => exact hc.leads.trans ih

/-! ## What is found is accepted -/

/-- What a walk adds are threads from which the program accepts no more than from where the walk started. -/
theorem follow_accepts (start fuel : Nat) : ∀ (a : Nat) (fr : Frontier),
    ∀ t ∈ (p.follow c.before c.after start fuel a fr).threads,
      t ∈ fr.threads ∨ t.start = start ∧ ∀ d, p.Accepts t.address c d → p.Accepts a c d := by
  induction fuel with
  | zero => intro a fr t ht; exact .inl ht
  | succ fuel ih =>
    intro a fr t ht
    rw [follow_succ] at ht
    split at ht
    · exact .inl ht
    · have hmark : ∀ t ∈ (p.mark start a fr).threads,
          t ∈ fr.threads ∨ t.start = start ∧ ∀ d, p.Accepts t.address c d → p.Accepts a c d := by
        intro t ht
        rw [threads_mark] at ht
        split at ht
        · rcases List.mem_cons.1 ht with rfl | ht
          · exact .inr ⟨rfl, fun _ h => h⟩
          · exact .inl ht
        · exact .inl ht
      have hsteps : ∀ b ∈ p.steps c.before c.after a, ∀ d, p.Accepts b c d → p.Accepts a c d :=
        fun b hb d h => h.step hb
      generalize p.mark start a fr = fr' at ht hmark
      generalize p.steps c.before c.after a = bs at ht hsteps
      induction bs generalizing fr' with
      | nil => exact hmark t ht
      | cons b bs ihs =>
        refine ihs _ (fun u hu => ?_) ht fun b' hb' => hsteps b' (List.mem_cons_of_mem _ hb')
        rcases ih b fr' u hu with hu | ⟨hstart, hu⟩
        · exact hmark u hu
        · exact .inr ⟨hstart, fun d h => hsteps b List.mem_cons_self d (hu d h)⟩

/-- A thread of a search from `origin` that stands at `c`: what the program accepts from here on, it accepts from where
the thread started. -/
def Stems (p : Program) (origin : Cursor) (t : Thread) (c : Cursor) : Prop :=
  ∃ s, origin.Leads s ∧ s.offset = t.start ∧ ∀ d, p.Accepts t.address c d → p.Accepts 0 s d

/-- A match of a search from `origin` that the program accepts. -/
def Sound (p : Program) (origin : Cursor) (m : Found) : Prop :=
  ∃ s, origin.Leads s ∧ s.offset = m.start ∧ p.Accepts 0 s m.stop

section Sound

variable {origin : Cursor} {before : Option Char} {offset : Nat} {fr : Frontier} {best : Option Found} {cs : List Char}
  {x : Char}

theorem stems_arrived (horigin : origin.Leads ⟨before, offset, cs⟩)
    (hfr : ∀ t ∈ fr.threads, p.Stems origin t ⟨before, offset, cs⟩) :
    ∀ t ∈ p.arrived before offset fr best cs.head?, p.Stems origin t ⟨before, offset, cs⟩ := by
  intro t ht
  rw [arrived, List.mem_reverse, enter] at ht
  split at ht
  · exact hfr t ht
  · rcases follow_accepts (c := ⟨before, offset, cs⟩) _ _ _ _ t ht with ht | ⟨hstart, ht⟩
    · exact hfr t ht
    · exact ⟨⟨before, offset, cs⟩, horigin, hstart.symm, ht⟩

theorem stems_advance {t u : Thread} (ht : p.Stems origin t ⟨before, offset, x :: cs⟩)
    (hu : u ∈ (p.advance x cs.head? fr t).threads) :
    u ∈ fr.threads ∨ p.Stems origin u ⟨some x, offset + x.utf8Size, cs⟩ := by
  unfold advance at hu
  split at hu
  · next s hs =>
    split at hu
    · next hx =>
      rcases follow_accepts (c := ⟨some x, offset + x.utf8Size, cs⟩) _ _ _ _ u hu with hu | ⟨hstart, hu⟩
      · exact .inl hu
      · obtain ⟨o, ho, hoffset, haccepts⟩ := ht
        refine .inr ⟨o, ho, hoffset.trans hstart.symm, fun d hd => haccepts d ?_⟩
        exact .char hs hx ⟨rfl, rfl, rfl⟩ (hu d hd)
    · exact .inl hu
  · exact .inl hu

theorem stems_onward (horigin : origin.Leads ⟨before, offset, x :: cs⟩)
    (hfr : ∀ t ∈ fr.threads, p.Stems origin t ⟨before, offset, x :: cs⟩) :
    ∀ u ∈ (p.onward before offset fr best x cs).threads, p.Stems origin u ⟨some x, offset + x.utf8Size, cs⟩ := by
  have harrived : ∀ t ∈ p.arrived before offset fr best (some x), p.Stems origin t ⟨before, offset, x :: cs⟩ :=
    stems_arrived horigin hfr
  have hlive : ∀ t ∈ (p.settle (p.arrived before offset fr best (some x))).1,
      p.Stems origin t ⟨before, offset, x :: cs⟩ := fun t ht => harrived t (p.settle_mem ht)
  have hstart : ∀ u ∈ (Frontier.start p.code.size).threads, p.Stems origin u ⟨some x, offset + x.utf8Size, cs⟩ := by
    simp
  unfold onward
  generalize (p.settle (p.arrived before offset fr best (some x))).1 = ts at hlive
  generalize Frontier.start p.code.size = fr' at hstart
  induction ts generalizing fr' with
  | nil => exact hstart
  | cons t ts ih =>
    refine ih (fun u hu => hlive u (List.mem_cons_of_mem _ hu)) _ fun u hu => ?_
    exact (stems_advance (hlive t List.mem_cons_self) hu).elim (hstart u) id

theorem sound_better {m : Found} (horigin : origin.Leads ⟨before, offset, cs⟩)
    (hfr : ∀ t ∈ fr.threads, p.Stems origin t ⟨before, offset, cs⟩) (hbest : ∀ m, best = some m → p.Sound origin m)
    (h : p.better before offset fr best cs = some m) : p.Sound origin m := by
  unfold better at h
  split at h
  · next s hs =>
    obtain ⟨t, ht, rfl, hdone⟩ := p.settle_won hs
    obtain rfl := Option.some.inj h
    obtain ⟨o, ho, hoffset, haccepts⟩ := stems_arrived horigin hfr t ht
    exact ⟨o, ho, hoffset, haccepts _ ⟨0, .done hdone⟩⟩
  · exact hbest m h

theorem run_sound {m : Found} : ∀ (cs : List Char) {before offset fr best}, origin.Leads ⟨before, offset, cs⟩ →
    (∀ t ∈ fr.threads, p.Stems origin t ⟨before, offset, cs⟩) → (∀ m, best = some m → p.Sound origin m) →
    p.run before offset fr best cs = some m → p.Sound origin m := by
  intro cs
  induction cs with
  | nil =>
    intro before offset fr best horigin hfr hbest h
    rw [run_nil] at h
    exact sound_better horigin hfr hbest h
  | cons x cs ih =>
    intro before offset fr best horigin hfr hbest h
    rw [run_cons] at h
    refine ih (horigin.tail rfl) (stems_onward horigin hfr) (fun m hm => ?_) h
    exact sound_better horigin hfr hbest hm

end Sound

/-- What a search finds, the program accepts from where it starts. -/
theorem find?_accepts {m : Found} (h : p.find? c = some m) :
    ∃ s, c.Leads s ∧ s.offset = m.start ∧ p.Accepts 0 s m.stop :=
  run_sound c.rest (.refl : c.Leads c) (by simp) (by simp) h

/-! ## What is accepted is found -/

/-- Where a visited instruction leads to the end, some thread waits on the way: it ends here, or it consumes the next
character and is still on the way. -/
theorem Complete.waits {n : Nat} {fr : Frontier} (h : p.Complete c.before c.after fr) (hv : fr.isVisited a = true)
    (ha : p.AcceptsIn n a c d) : ∃ t ∈ fr.threads, p.code[t.address]? = some .done ∨
      ∃ s x e, p.code[t.address]? = some (.char s) ∧ s.contains x = true ∧ c.Reads [x] e ∧
        p.Accepts (t.address + 1) e d := by
  induction ha with
  | @done a c hdone =>
    obtain ⟨t, ht, rfl⟩ := h.thread a (by simp [stops, hdone]) hv
    exact ⟨t, ht, .inl hdone⟩
  | @step n a b c d hb _ ih => exact ih h (h.closed a hv b hb)
  | @char n a s x c d e hs hx hc hacc _ =>
    obtain ⟨t, ht, rfl⟩ := h.thread a (by simp [stops, hs]) hv
    exact ⟨t, ht, .inr ⟨s, x, e, hs, hx, hc, n, hacc⟩⟩

/-- Behind threads that started before `n` and are on the way to the end, a search finds a match that starts before
`n`. -/
theorem run_of_visited {n : Nat} : ∀ (cs : List Char) {before offset best a} {e x y : Frontier},
    p.Complete before cs.head? e → (∀ t ∈ e.threads, t.start < n) → Shadow e x y → e.isVisited a = true →
    p.Accepts a ⟨before, offset, cs⟩ d → ∃ m, p.run before offset x best cs = some m ∧ m.start < n := by
  intro cs
  induction cs with
  | nil =>
    rintro before offset best a e x y he ht h hv ⟨k, hacc⟩
    cases hd : (p.settle e.threads.reverse).2 with
    | some s => exact h.run_of_some he ht hd
    | none =>
      obtain ⟨t, hmem, hdone | ⟨s, z, e₁, -, -, hz, -⟩⟩ := Complete.waits (c := ⟨before, offset, []⟩) he hv hacc
      · exact absurd hdone ((p.settle_of_none hd).2 t (List.mem_reverse.2 hmem))
      · simpa using hz.rest
  | cons z cs ih =>
    rintro before offset best a e x y he ht h hv ⟨k, hacc⟩
    cases hd : (p.settle e.threads.reverse).2 with
    | some s => exact h.run_of_some he ht hd
    | none =>
      have hwait := Complete.waits (c := ⟨before, offset, z :: cs⟩) he hv hacc
      obtain ⟨t, hmem, hdone | ⟨s, z', e₁, hs, hz, hreads, hnext⟩⟩ := hwait
      · exact absurd hdone ((p.settle_of_none hd).2 t (List.mem_reverse.2 hmem))
      · obtain ⟨he', ht', h'⟩ := h.onward cs he ht hd
        obtain rfl : z = z' := (List.cons.inj hreads.rest).1
        obtain rfl : e₁ = ⟨some z, offset + z.utf8Size, cs⟩ := hreads.eq ⟨rfl, rfl, rfl⟩
        rw [run_cons]
        exact ih he' ht' h' (foldl_advance_visits (List.mem_reverse.2 hmem) hs hz (p.complete_start _ _)) hnext

/-- Entering a place twice is entering it once. -/
theorem run_enter (cs : List Char) (before : Option Char) (offset : Nat) (fr : Frontier)
    (hfr : p.Complete before cs.head? fr) :
    p.run before offset (p.enter before cs.head? offset none fr) none cs = p.run before offset fr none cs := by
  have hagain : p.enter before cs.head? offset none (p.enter before cs.head? offset none fr) =
      p.enter before cs.head? offset none fr := by
    unfold enter
    split
    · rfl
    · have hvisited := (p.follow_visits before cs.head? offset p.code.size 0 fr
        (fr.card_left_le.trans hfr.size.le)).1
      generalize p.follow before cs.head? offset p.code.size 0 fr = fr' at hvisited
      cases p.code.size with
      | zero => rfl
      | succ size => rw [follow_succ, if_pos hvisited]
  cases cs with
  | nil => simp only [run_nil, better, arrived, hagain]
  | cons x cs =>
    simp only [List.head?_cons] at hagain ⊢
    simp only [run_cons, better, onward, arrived, List.head?_cons, hagain]

/-- A search finds a match that starts where the program accepts. -/
theorem find?_of_accepts (h : p.Accepts 0 c d) (hc : p.anchored = true → c.before = none) :
    ∃ m, p.find? c = some m ∧ m.start = c.offset := by
  have hfollow : p.enter c.before c.after c.offset none (.start p.code.size) =
      p.follow c.before c.after c.offset p.code.size 0 (.start p.code.size) := by
    unfold enter
    rw [if_neg]
    simp only [Option.isSome_none, Bool.false_or, Bool.and_eq_true, not_and]
    intro hanchored
    simp [hc hanchored]
  have hstart := p.complete_start c.before c.after
  have hcomplete := hstart.follow c.offset 0
  have hvisited := (p.follow_visits c.before c.after c.offset p.code.size 0 _
    ((Frontier.card_left_le _).trans hstart.size.le)).1
  have hthreads : ∀ t ∈ (p.follow c.before c.after c.offset p.code.size 0 (.start p.code.size)).threads,
      t.start < c.offset + 1 := by
    intro t ht
    rcases p.follow_threads _ _ _ _ _ _ t ht with ht | ht
    · simp at ht
    · omega
  obtain ⟨m, hm, hlt⟩ : ∃ m, p.run c.before c.offset (p.follow c.before c.after c.offset p.code.size 0
      (.start p.code.size)) none c.rest = some m ∧ m.start < c.offset + 1 :=
    run_of_visited c.rest hcomplete hthreads (Shadow.refl_start hcomplete.size) hvisited h
  have hfind : p.find? c = some m := by
    rw [find?, ← run_enter c.rest c.before c.offset _ hstart]
    exact (congrArg (p.run c.before c.offset · none c.rest) hfollow).trans hm
  exact ⟨m, hfind, by have := (find?_le hfind).1; omega⟩

/-- The match that is found starts no later than any place from which the program accepts. -/
theorem find?_leftmost (hp : p.anchored = false) (hce : c.Leads e) (h : p.Accepts 0 e d) :
    ∃ m, p.find? c = some m ∧ m.start ≤ e.offset := by
  induction hce using Relation.ReflTransGen.head_induction_on with
  | refl =>
    obtain ⟨m, hm, hstart⟩ := find?_of_accepts h (by simp [hp])
    exact ⟨m, hm, hstart.le⟩
  | @head c c' hnext hce ih =>
    by_cases hhere : ∃ m, p.find? c = some m ∧ m.start = c.offset
    · obtain ⟨m, hm, hstart⟩ := hhere
      exact ⟨m, hm, hstart.trans_le ((Cursor.next?_reaches hnext).trans (Cursor.Leads.reaches hce)).le⟩
    · have hskip : p.find? c = c.next?.bind p.find? := find?_of_not_here fun m hm hstart => hhere ⟨m, hm, hstart⟩
      rw [hskip, hnext]
      exact ih

end PatternLint.Regex.Program
