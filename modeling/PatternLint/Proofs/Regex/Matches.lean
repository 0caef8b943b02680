import PatternLint.Proofs.Regex.Accepts
import PatternLint.Proofs.Regex.Code
/-!
# What an expression matches

`MatchesFrom` gives an expression its meaning without a program: from which place to which place of a text it matches,
one clause for each kind of expression. `Program.Runs` says that the code between two addresses does the same, and code
that follows code, a fork or a loop runs what its parts run (`runs_code`). Main statement: the program of an expression
accepts what the expression matches (`accepts_program_iff`), so that a search finds matches and nothing else, and starts
where the first of them does.
-/
namespace PatternLint

theorem CharSet.contains_singleton {x y : Char} : (singleton x).contains y = true ↔ y = x := by
  have hcovers : (singleton x).contains y = covers y.toNat [(x.toNat, x.toNat)] := by
    simp [contains, singleton, range]
  rw [hcovers, ← Char.toNat_inj]
  simp only [covers]
  split
  · simp; omega
  · split <;> simp <;> omega

namespace Regex

variable {R S : Cursor → Cursor → Prop} {n k : Nat} {c d e : Cursor}

/-- The relation `n` times, one after the other. -/
inductive Iterated (R : Cursor → Cursor → Prop) : Nat → Cursor → Cursor → Prop
  | zero {c : Cursor} : Iterated R 0 c c
  | succ {n : Nat} {c d e : Cursor} : R c e → Iterated R n e d → Iterated R (n + 1) c d

/-- From where to where an expression matches. A repetition with a greatest number below its least one is done exactly
the least number of times. -/
def MatchesFrom : Regex → Cursor → Cursor → Prop
  | empty => fun c d => d = c
  | literal text => fun c d => c.Reads text d
  | set s _ => fun c d => ∃ x, s.contains x = true ∧ c.Reads [x] d
  | assertion a => fun c d => a.holds c.before c.after = true ∧ d = c
  | seq r s => fun c d => ∃ e, r.MatchesFrom c e ∧ s.MatchesFrom e d
  | alt r s => fun c d => r.MatchesFrom c d ∨ s.MatchesFrom c d
  | times r min max _ => fun c d => ∃ n, min ≤ n ∧ (n = min ∨ ∀ m, max = some m → n ≤ m) ∧ Iterated r.MatchesFrom n c d
  | group _ r => r.MatchesFrom

/-! ## Repetitions -/

@[simp] theorem iterated_zero : Iterated R 0 c d ↔ d = c :=
  ⟨fun h => by cases h; rfl, fun h => h ▸ .zero⟩

theorem iterated_succ : Iterated R (n + 1) c d ↔ ∃ e, R c e ∧ Iterated R n e d := by
  constructor
  · rintro (_ | ⟨h, h'⟩)
    exact ⟨_, h, h'⟩
  · rintro ⟨e, h, h'⟩
    exact .succ h h'

theorem iterated_add : Iterated R (n + k) c d ↔ ∃ e, Iterated R n c e ∧ Iterated R k e d := by
  induction n generalizing c with
  | zero => simp
  | succ n ih =>
    rw [Nat.add_right_comm]
    simp only [iterated_succ, ih]
    constructor
    · rintro ⟨e, he, f, hf, hd⟩
      exact ⟨f, ⟨e, he, hf⟩, hd⟩
    · rintro ⟨f, ⟨e, he, hf⟩, hd⟩
      exact ⟨e, he, f, hf, hd⟩

section Repeated
variable {s : CharSet} {narrow greedy : Bool} {x : Char}

theorem iterated_set : Iterated (set s narrow).MatchesFrom n c d ↔
    ∃ word, word.length = n ∧ (∀ x ∈ word, s.contains x = true) ∧ c.Reads word d := by
  induction n generalizing c with
  | zero => simp
  | succ n ih =>
    simp only [iterated_succ, ih]
    constructor
    · rintro ⟨e, ⟨x, hx, he⟩, word, rfl, hword, hd⟩
      exact ⟨x :: word, rfl, by simpa [hx] using hword, he.trans hd⟩
    · rintro ⟨word, hlength, hword, hd⟩
      obtain ⟨x, word, rfl⟩ := List.exists_cons_of_length_eq_add_one hlength
      obtain ⟨e, he, hd⟩ := Cursor.reads_cons.1 hd
      rw [List.forall_mem_cons] at hword
      exact ⟨e, ⟨x, hword.1, he⟩, word, by simpa using hlength, hword.2, hd⟩

theorem matchesFrom_many : (times (set s narrow) 0 none greedy).MatchesFrom c d ↔
    ∃ word, (∀ x ∈ word, s.contains x = true) ∧ c.Reads word d := by
  rw [MatchesFrom]
  simp only [iterated_set]
  constructor
  · rintro ⟨n, -, -, word, -, hword, hd⟩
    exact ⟨word, hword, hd⟩
  · rintro ⟨word, hword, hd⟩
    exact ⟨word.length, Nat.zero_le _, .inr nofun, word, rfl, hword, hd⟩

theorem matchesFrom_alt {r s : Regex} : (alt r s).MatchesFrom c d ↔ r.MatchesFrom c d ∨ s.MatchesFrom c d := Iff.rfl

theorem matchesFrom_optional {r : Regex} : (times r 0 (some 1) greedy).MatchesFrom c d ↔
    d = c ∨ r.MatchesFrom c d := by
  simp only [MatchesFrom, Option.some.injEq, forall_eq']
  constructor
  · rintro ⟨n, -, hn, hd⟩
    rcases (show n = 0 ∨ n = 1 by omega) with rfl | rfl
    · exact .inl (iterated_zero.1 hd)
    · obtain ⟨e, he, hd⟩ := iterated_succ.1 hd
      exact .inr (iterated_zero.1 hd ▸ he)
  · rintro (rfl | h)
    · exact ⟨0, by omega, by omega, .zero⟩
    · exact ⟨1, by omega, by omega, .succ h .zero⟩

theorem matchesFrom_replicate : (times (literal [x]) n (some n) greedy).MatchesFrom c d ↔
    c.Reads (List.replicate n x) d := by
  have hiterated : ∀ n c, Iterated (literal [x]).MatchesFrom n c d ↔ c.Reads (List.replicate n x) d := by
    intro n
    induction n with
    | zero => simp
    | succ n ih =>
      intro c
      simp only [iterated_succ, ih, List.replicate_succ]
      exact Cursor.reads_cons.symm
  simp only [MatchesFrom, Option.some.injEq, forall_eq', ← hiterated]
  constructor
  · rintro ⟨k, hmin, hmax, hd⟩
    obtain rfl : k = n := by omega
    exact hd
  · exact fun hd => ⟨n, le_rfl, .inl rfl, hd⟩

end Repeated

/-! ## Code that does what a relation says -/

namespace Program

variable {p : Program} {a b m stop : Nat}

/-- The code from the first address to the second does what the relation says, and does it in some of the steps. -/
structure Runs (p : Program) (a b : Nat) (R : Cursor → Cursor → Prop) : Prop where
  sound : ∀ {n c d}, p.AcceptsIn n a c d → ∃ e m, m ≤ n ∧ R c e ∧ p.AcceptsIn m b e d
  complete : ∀ {c e d}, R c e → p.Accepts b e d → p.Accepts a c d

namespace Runs

theorem congr (h : p.Runs a b R) (hR : ∀ c d, R c d ↔ S c d) : p.Runs a b S := by
  obtain rfl : R = S := funext fun c => funext fun d => propext (hR c d)
  exact h

theorem refl : p.Runs a a fun c d => d = c where
  sound h := ⟨_, _, Nat.le_refl _, rfl, h⟩
  complete h h' := h ▸ h'

theorem trans (h : p.Runs a m R) (h' : p.Runs m b S) : p.Runs a b fun c d => ∃ e, R c e ∧ S e d where
  sound hacc := by
    obtain ⟨e, i, hi, hR, hacc⟩ := h.sound hacc
    obtain ⟨f, j, hj, hS, hacc⟩ := h'.sound hacc
    exact ⟨f, j, hj.trans hi, ⟨e, hR, hS⟩, hacc⟩
  complete := by
    rintro c d f ⟨e, hR, hS⟩ hacc
    exact h.complete hR (h'.complete hS hacc)

theorem of_char {s : CharSet} (h : p.code[a]? = some (.char s)) :
    p.Runs a (a + 1) fun c d => ∃ x, s.contains x = true ∧ c.Reads [x] d where
  sound hacc := by
    cases hacc with
    | done hd => cases h.symm.trans hd
    | step hb _ => simp [steps, h] at hb
    | char hs hx hc hnext =>
      obtain rfl := Instr.char.inj (Option.some.inj (hs.symm.trans h))
      exact ⟨_, _, Nat.le_succ _, ⟨_, hx, hc⟩, hnext⟩
  complete := by
    rintro c e d ⟨x, hx, hc⟩ hacc
    exact .char h hx hc hacc

/-- At an instruction that consumes nothing and does not end, the program goes on with one of its steps. -/
theorem exists_step (hstop : p.stops a = false) (h : p.AcceptsIn n a c d) :
    ∃ k b, k < n ∧ b ∈ p.steps c.before c.after a ∧ p.AcceptsIn k b c d := by
  cases h with
  | done hd => simp [stops, hd] at hstop
  | step hb hnext => exact ⟨_, _, Nat.lt_succ_self _, hb, hnext⟩
  | char hs _ _ _ => simp [stops, hs] at hstop

theorem of_assertion {t : Assertion} (h : p.code[a]? = some (.assertion t)) :
    p.Runs a (a + 1) fun c d => t.holds c.before c.after = true ∧ d = c where
  sound hacc := by
    obtain ⟨k, b, hk, hb, hacc⟩ := exists_step (by simp [stops, h]) hacc
    simp only [steps, h] at hb
    split at hb
    · next ht =>
      obtain rfl := List.mem_singleton.1 hb
      exact ⟨_, k, hk.le, ⟨ht, rfl⟩, hacc⟩
    · simp at hb
  complete := by
    rintro c e d ⟨ht, rfl⟩ hacc
    exact hacc.step (by simp [steps, h, ht])

theorem of_jump (h : p.code[a]? = some (.jump b)) : p.Runs a b fun c d => d = c where
  sound hacc := by
    obtain ⟨k, b', hk, hb, hacc⟩ := exists_step (by simp [stops, h]) hacc
    obtain rfl : b' = b := by simpa [steps, h] using hb
    exact ⟨_, k, hk.le, rfl, hacc⟩
  complete := by
    rintro c e d rfl hacc
    exact hacc.step (by simp [steps, h])

theorem of_fork {i j : Nat} (h : p.code[a]? = some (.fork i j)) (hi : p.Runs i b R) (hj : p.Runs j b S) :
    p.Runs a b fun c d => R c d ∨ S c d where
  sound hacc := by
    obtain ⟨k, b', hk, hb, hacc⟩ := exists_step (by simp [stops, h]) hacc
    obtain rfl | rfl : b' = i ∨ b' = j := by simpa [steps, h] using hb
    · obtain ⟨e, m, hm, hR, hacc⟩ := hi.sound hacc
      exact ⟨e, m, hm.trans hk.le, .inl hR, hacc⟩
    · obtain ⟨e, m, hm, hS, hacc⟩ := hj.sound hacc
      exact ⟨e, m, hm.trans hk.le, .inr hS, hacc⟩
  complete := by
    rintro c e d (hR | hS) hacc
    · exact (hi.complete hR hacc).step (by simp [steps, h])
    · exact (hj.complete hS hacc).step (by simp [steps, h])

theorem of_forkBy {greedy : Bool} {i j : Nat} (h : p.code[a]? = some (.forkBy greedy i j)) (hi : p.Runs i b R)
    (hj : p.Runs j b S) : p.Runs a b fun c d => R c d ∨ S c d := by
  cases greedy with
  | true => exact of_fork h hi hj
  | false => exact (of_fork h hj hi).congr fun c d => or_comm

/-- A fork at the end of a piece of code, back to its beginning or away from it. -/
theorem of_loop {greedy : Bool} (h : p.code[a]? = some (.forkBy greedy b stop)) (hb : p.Runs b a R) :
    p.Runs a stop fun c d => ∃ n, Iterated R n c d where
  sound := by
    intro n
    -- on the number of steps, since a round may come back to the fork at the same place
    induction n using Nat.strong_induction_on with
    | h n ih =>
      intro c d hacc
      have hstop : p.stops a = false := by cases greedy <;> simp [stops, h, Instr.forkBy]
      obtain ⟨k, b', hk, hb', hacc⟩ := exists_step hstop hacc
      have hcases : b' = b ∨ b' = stop := by cases greedy <;> simpa [steps, h, Instr.forkBy, or_comm] using hb'
      rcases hcases with rfl | rfl
      · obtain ⟨e, m, hm, hR, hacc⟩ := hb.sound hacc
        obtain ⟨f, m', hm', ⟨j, hj⟩, hacc⟩ := ih m (by omega) hacc
        exact ⟨f, m', by omega, ⟨j + 1, .succ hR hj⟩, hacc⟩
      · exact ⟨c, k, hk.le, ⟨0, .zero⟩, hacc⟩
  complete := by
    rintro c e d ⟨n, hn⟩ hacc
    have hback : ∀ i, i = b ∨ i = stop → i ∈ p.steps c.before c.after a := by
      intro i hi
      cases greedy <;> simp [steps, h, Instr.forkBy, hi, or_comm.1 hi]
    induction hn with
    | zero => exact hacc.step (hback stop (.inr rfl))
    | succ hR _ ih =>
      refine Accepts.step (hback b (.inl rfl)) (hb.complete hR (ih hacc fun i hi => ?_))
      cases greedy <;> simp [steps, h, Instr.forkBy, hi, or_comm.1 hi]

end Runs

/-! ## Code in a program -/

/-- The program has the instructions from the address on. -/
def Holds (p : Program) (a : Nat) (code : List Instr) : Prop :=
  ∃ pre post, p.code.toList = pre ++ code ++ post ∧ pre.length = a

namespace Holds

variable {i : Instr} {code code' : List Instr}

theorem left (h : p.Holds a (code ++ code')) : p.Holds a code := by
  obtain ⟨pre, post, hcode, rfl⟩ := h
  exact ⟨pre, code' ++ post, by simp [hcode], rfl⟩

theorem right (h : p.Holds a (code ++ code')) : p.Holds (a + code.length) code' := by
  obtain ⟨pre, post, hcode, rfl⟩ := h
  exact ⟨pre ++ code, post, by simp [hcode], by simp⟩

theorem head (h : p.Holds a (i :: code)) : p.code[a]? = some i := by
  obtain ⟨pre, post, hcode, rfl⟩ := h
  rw [← Array.getElem?_toList, hcode]
  simp

theorem tail (h : p.Holds a (i :: code)) : p.Holds (a + 1) code := by
  obtain ⟨pre, post, hcode, rfl⟩ := h
  exact ⟨pre ++ [i], post, by simp [hcode], by simp⟩

end Holds

variable {r : Regex} {text : List Char} {greedy : Bool}

theorem runs_literal : ∀ {a : Nat}, p.Holds a (text.map fun x => .char (.singleton x)) →
    p.Runs a (a + text.length) fun c d => c.Reads text d := by
  induction text with
  | nil => intro a _; exact Runs.refl.congr fun c d => Cursor.reads_nil.symm
  | cons x text ih =>
    intro a h
    have hlength : a + (x :: text).length = a + 1 + text.length := by simp; omega
    rw [hlength]
    refine ((Runs.of_char h.head).trans (ih h.tail)).congr fun c d => ?_
    rw [Cursor.reads_cons]
    simp only [CharSet.contains_singleton]
    constructor
    · rintro ⟨e, ⟨_, rfl, he⟩, hd⟩
      exact ⟨e, he, hd⟩
    · rintro ⟨e, he, hd⟩
      exact ⟨e, ⟨x, rfl, he⟩, hd⟩

section Repetition
variable (hr : ∀ {a : Nat}, p.Holds a (r.code a) → p.Runs a (a + r.size) r.MatchesFrom)
include hr

theorem runs_copies (n : Nat) : ∀ {a : Nat}, p.Holds a (Instr.copies r.code r.size n a) →
    p.Runs a (a + n * r.size) (Iterated r.MatchesFrom n) := by
  induction n with
  | zero =>
    intro a _
    rw [Nat.zero_mul, Nat.add_zero]
    exact Runs.refl.congr fun c d => iterated_zero.symm
  | succ n ih =>
    intro a h
    rw [Instr.copies] at h
    have hrest := h.right
    rw [length_code] at hrest
    have hstop : a + (n + 1) * r.size = a + r.size + n * r.size := by rw [Nat.succ_mul]; omega
    rw [hstop]
    exact ((hr h.left).trans (ih hrest)).congr fun c d => iterated_succ.symm

omit hr in
theorem holds_last_copy (n : Nat) : ∀ {a : Nat}, p.Holds a (Instr.copies r.code r.size (n + 1) a) →
    p.Holds (a + n * r.size) (r.code (a + n * r.size)) := by
  induction n with
  | zero => intro a h; simpa [Instr.copies] using h
  | succ n ih =>
    intro a h
    rw [Instr.copies] at h
    have hrest := h.right
    rw [length_code] at hrest
    have hlast : a + (n + 1) * r.size = a + r.size + n * r.size := by rw [Nat.succ_mul]; omega
    rw [hlast]
    exact ih hrest

theorem runs_options (n : Nat) : ∀ {a : Nat}, p.Holds a (Instr.options r.code r.size greedy stop n a) →
    stop = a + n * (r.size + 1) → p.Runs a stop fun c d => ∃ j ≤ n, Iterated r.MatchesFrom j c d := by
  induction n with
  | zero =>
    rintro a - rfl
    simpa using Runs.refl
  | succ n ih =>
    intro a h hstop
    rw [Instr.options] at h
    have hrest := h.tail.right
    rw [length_code] at hrest
    have hnext := ih hrest (by rw [hstop, Nat.succ_mul]; omega)
    refine (Runs.of_forkBy h.head ((hr h.tail.left).trans hnext) Runs.refl).congr fun c d => ?_
    constructor
    · rintro (⟨e, he, j, hj, hd⟩ | rfl)
      · exact ⟨j + 1, by omega, .succ he hd⟩
      · exact ⟨0, by omega, .zero⟩
    · rintro ⟨j, hj, hd⟩
      cases hd with
      | zero => exact .inr rfl
      | succ he hd => exact .inl ⟨_, he, _, by omega, hd⟩

theorem runs_star (h : p.Holds a ((times r 0 none greedy).code a)) :
    p.Runs a (a + r.size + 2) fun c d => ∃ n, Iterated r.MatchesFrom n c d := by
  rw [Regex.code] at h
  have hfork := h.tail.right.head
  rw [length_code] at hfork
  have hbody : p.Runs (a + 1) (a + 1 + r.size) r.MatchesFrom := hr h.tail.left
  have hloop := Runs.of_loop hfork hbody
  refine (Runs.of_forkBy h.head (hbody.trans hloop) Runs.refl).congr fun c d => ?_
  constructor
  · rintro (⟨e, he, n, hd⟩ | rfl)
    · exact ⟨n + 1, .succ he hd⟩
    · exact ⟨0, .zero⟩
  · rintro ⟨n, hd⟩
    cases hd with
    | zero => exact .inr rfl
    | succ he hd => exact .inl ⟨_, he, _, hd⟩

theorem runs_plus {min : Nat} (h : p.Holds a ((times r (min + 1) none greedy).code a)) :
    p.Runs a (a + (min + 1) * r.size + 1) fun c d => ∃ n, min + 1 ≤ n ∧ Iterated r.MatchesFrom n c d := by
  rw [Regex.code] at h
  have hlast := holds_last_copy min h.left
  have hfork := h.right.head
  rw [Instr.length_copies (length_code r)] at hfork
  have haddress : a + (min + 1) * r.size = a + min * r.size + r.size := by rw [Nat.succ_mul]; omega
  rw [haddress] at hfork ⊢
  have hcopies := runs_copies hr (min + 1) h.left
  rw [haddress] at hcopies
  refine (hcopies.trans (Runs.of_loop hfork (hr hlast))).congr fun c d => ?_
  constructor
  · rintro ⟨e, he, n, hd⟩
    exact ⟨min + 1 + n, by omega, iterated_add.2 ⟨e, he, hd⟩⟩
  · rintro ⟨n, hn, hd⟩
    obtain ⟨n, rfl⟩ := Nat.exists_eq_add_of_le hn
    obtain ⟨e, he, hd⟩ := iterated_add.1 hd
    exact ⟨e, he, n, hd⟩

theorem runs_bounded {min max : Nat} (h : p.Holds a ((times r min (some max) greedy).code a)) :
    p.Runs a (a + min * r.size + (max - min) * (r.size + 1)) fun c d =>
      ∃ n, min ≤ n ∧ (n = min ∨ n ≤ max) ∧ Iterated r.MatchesFrom n c d := by
  rw [Regex.code] at h
  have hoptions := h.right
  rw [Instr.length_copies (length_code r)] at hoptions
  refine ((runs_copies hr min h.left).trans (runs_options hr _ hoptions rfl)).congr fun c d => ?_
  constructor
  · rintro ⟨e, he, n, hn, hd⟩
    exact ⟨min + n, by omega, by omega, iterated_add.2 ⟨e, he, hd⟩⟩
  · rintro ⟨n, hmin, hmax, hd⟩
    obtain ⟨n, rfl⟩ := Nat.exists_eq_add_of_le hmin
    obtain ⟨e, he, hd⟩ := iterated_add.1 hd
    exact ⟨e, he, n, by omega, hd⟩

end Repetition

/-- The code of an expression does what the expression matches. -/
theorem runs_code (r : Regex) : ∀ {a : Nat}, p.Holds a (r.code a) → p.Runs a (a + r.size) r.MatchesFrom := by
  induction r with
  | empty => intro a _; exact Runs.refl
  | literal text => intro a h; exact runs_literal h
  | set s narrow => intro a h; exact Runs.of_char h.head
  | assertion t => intro a h; exact Runs.of_assertion h.head
  | seq r s ihr ihs =>
    intro a h
    have hs := h.right
    rw [length_code] at hs
    have hruns := (ihr h.left).trans (ihs hs)
    rwa [Nat.add_assoc] at hruns
  | alt r s ihr ihs =>
    intro a h
    rw [Regex.code] at h
    have hjump := h.tail.right
    rw [length_code] at hjump
    have hsecond : a + 1 + r.size + 1 = a + r.size + 2 := by omega
    have hs := hjump.tail
    rw [hsecond] at hs
    have hfirst := (ihr h.tail.left).trans (Runs.of_jump hjump.head)
    have hstop : a + (r.size + s.size + 2) = a + r.size + 2 + s.size := by omega
    rw [size, hstop]
    refine (Runs.of_fork h.head hfirst (ihs hs)).congr fun c d => ?_
    simp [MatchesFrom]
  | times r min max greedy ih =>
    intro a h
    cases max with
    | some max =>
      rw [size, ← Nat.add_assoc]
      exact (runs_bounded ih h).congr fun c d => by simp [MatchesFrom]
    | none =>
      cases min with
      | zero => exact (runs_star ih h).congr fun c d => by simp [MatchesFrom]
      | succ min =>
        rw [size, ← Nat.add_assoc]
        exact (runs_plus ih h).congr fun c d => by simp [MatchesFrom]
  | group index r ih => intro a h; exact ih h

end Program

/-! ## Programs of expressions -/

open Program

variable {r : Regex}

theorem accepts_program_iff : r.program.Accepts 0 c d ↔ r.MatchesFrom c d := by
  have hcode : r.program.code.toList = r.code 0 ++ [Instr.done] := by simp [program]
  have hruns := runs_code r (p := r.program) (a := 0) ⟨[], [.done], by simpa using hcode, rfl⟩
  have hdone : r.program.code[r.size]? = some .done := by
    have h : r.program.Holds r.size [.done] := ⟨r.code 0, [], by simpa using hcode, length_code r 0⟩
    exact h.head
  rw [Nat.zero_add] at hruns
  constructor
  · rintro ⟨n, h⟩
    obtain ⟨e, m, -, hmatches, hend⟩ := hruns.sound h
    cases hend with
    | done _ => exact hmatches
    | step hb _ => simp [steps, hdone] at hb
    | char hs _ _ _ => cases hdone.symm.trans hs
  · intro h
    exact hruns.complete h ⟨0, .done hdone⟩

end Regex

end PatternLint
