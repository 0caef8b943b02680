import PatternLint.Proofs.Grammar.Forward
/-!
# The calls that an attempt makes

`Expr.calls` lists the rules that are called while an expression is tried, each with the place where it is called, and
`Matcher.callStacks` the rules that are active together at some time of a run, outermost first. A call for which no level is
left is entered too, and cut off. Calls go forward (`Expr.calls_reaches`). An attempt is cut off only by a stack that is
one higher than there are levels, or while something is skipped (`Matcher.stack_of_cutOff`).
-/
namespace PatternLint

/-! ## Repetition -/

section Repeat
variable (p : Cursor → Attempt) (max : Option Nat)

/-- The places where `p` is tried in repeating it. -/
def triedFrom (count : Nat) (c : Cursor) (budget : List Char) : List Cursor :=
  if max.any (· ≤ count) then []
  else
    c ::
      match (p c).result with
      | none => []
      | some next =>
        if next.offset = c.offset then []
        else
          match budget with
          | [] => []
          | _ :: budget => triedFrom (count + 1) next budget

variable {p max}

/-- The first round is made where the repetition starts, and the others further on. -/
theorem mem_triedFrom (hp : ∀ c, (p c).Forward c) (budget : List Char) : ∀ {count : Nat} {c d : Cursor},
    d ∈ triedFrom p max count c budget → c.Reaches d ∧ (d = c ∨ c.offset < d.offset) := by
  induction budget with
  | nil =>
    intro count c d h
    unfold triedFrom at h
    split at h
    · cases h
    · rcases List.mem_cons.1 h with rfl | h
      · exact ⟨.refl d, .inl rfl⟩
      · split at h
        · cases h
        · split at h <;> cases h
  | cons x budget ih =>
    intro count c d h
    unfold triedFrom at h
    split at h
    · cases h
    · rcases List.mem_cons.1 h with rfl | h
      · exact ⟨.refl d, .inl rfl⟩
      · split at h
        · cases h
        · next next hn =>
          split at h
          · cases h
          · next ho =>
            have hnext := hp c next hn
            have hd := (ih h).1
            refine ⟨hnext.trans hd, .inr ?_⟩
            have := hnext.le
            have := hd.le
            omega

/-- A repetition is cut off if one of its rounds is. -/
theorem repeatFrom_cutOff {min : Nat} (budget : List Char) : ∀ (count : Nat) (cut : Bool) (c : Cursor),
    (repeatFrom p min max count cut c budget).cutOff =
      (cut || (triedFrom p max count c budget).any fun d => (p d).cutOff) := by
  induction budget with
  | nil =>
    intro count cut c
    unfold repeatFrom triedFrom
    split
    · simp
    · cases hpc : p c with
      | mk r cut' =>
        cases r with
        | none => simp [hpc]
        | some d => by_cases ho : d.offset = c.offset <;> simp [hpc, ho]
  | cons x budget ih =>
    intro count cut c
    unfold repeatFrom triedFrom
    split
    · simp
    · cases hpc : p c with
      | mk r cut' =>
        cases r with
        | none => simp [hpc]
        | some d => by_cases ho : d.offset = c.offset <;> simp [hpc, ho, ih, Bool.or_assoc]

end Repeat

/-! ## Expressions -/

namespace Expr

variable {τ ρ : Type} (run : τ → Cursor → Option Cursor) (lead : Cursor → Cursor × Bool) (call : ρ → Cursor → Attempt)

/-- The calls made in trying an expression, in order. -/
def calls : Expr τ ρ → Cursor → List (ρ × Cursor)
  | empty, _ | never, _ | literal _, _ | terminal _, _ | any, _ => []
  | seq a b, c => a.calls c ++ ((a.parse run lead call c).result.elim [] b.calls)
  | choice a b, c => a.calls c ++ if (a.parse run lead call c).result.isSome then [] else b.calls c
  | rounds e _ max, c => (triedFrom (e.parse run lead call) max 0 c c.rest).flatMap e.calls
  | ahead e, c | notAhead e, c => e.calls c
  | rule r, c => [(r, c)]

variable {run lead call} (hf : ∀ (e : Expr τ ρ) c, (e.parse run lead call c).Forward c)
include hf

theorem calls_reaches (e : Expr τ ρ) : ∀ {c : Cursor} {x : ρ × Cursor}, x ∈ e.calls run lead call c →
    c.Reaches x.2 := by
  induction e with
  | empty | never | literal _ | terminal _ | any => intro c x h; cases h
  | seq a b iha ihb =>
    intro c x h
    rcases List.mem_append.1 h with h | h
    · exact iha h
    · cases hr : (a.parse run lead call c).result with
      | none =>
        rw [hr] at h
        cases h
      | some d =>
        rw [hr] at h
        exact (hf a c d hr).trans (ihb h)
  | choice a b iha ihb =>
    intro c x h
    rcases List.mem_append.1 h with h | h
    · exact iha h
    · split at h
      · cases h
      · exact ihb h
  | rounds e min max ih =>
    intro c x h
    obtain ⟨d, hd, hx⟩ := List.mem_flatMap.1 h
    exact (mem_triedFrom (hf e) c.rest hd).1.trans (ih hx)
  | ahead e ih | notAhead e ih => intro c x h; exact ih h
  | rule r =>
    intro c x h
    cases List.mem_singleton.1 h
    exact .refl c

/-- An attempt is cut off in a call or in what is skipped before a terminal. -/
theorem call_of_cutOff (e : Expr τ ρ) : ∀ {c : Cursor}, (e.parse run lead call c).cutOff = true →
    (∃ d, c.Reaches d ∧ (lead d).2 = true) ∨ ∃ x ∈ e.calls run lead call c, (call x.1 x.2).cutOff = true := by
  induction e with
  | empty | never => intro c h; cases h
  | literal _ | terminal _ | any => intro c h; exact .inl ⟨c, .refl c, h⟩
  | seq a b iha ihb =>
    intro c h
    rcases parse_seq a b c with ⟨-, he⟩ | ⟨mid, hmid, he⟩
    · rw [he] at h
      exact (iha h).imp_right fun ⟨x, hx, hc⟩ => ⟨x, List.mem_append_left _ hx, hc⟩
    · rw [he] at h
      rcases Bool.or_eq_true_iff.1 h with h | h
      · exact (iha h).imp_right fun ⟨x, hx, hc⟩ => ⟨x, List.mem_append_left _ hx, hc⟩
      · rcases ihb h with ⟨d, hd, hl⟩ | ⟨x, hx, hc⟩
        · exact .inl ⟨d, (hf a c mid hmid).trans hd, hl⟩
        · refine .inr ⟨x, List.mem_append_right _ ?_, hc⟩
          rw [hmid]
          exact hx
  | choice a b iha ihb =>
    intro c h
    rcases parse_choice a b c with ⟨-, -, he⟩ | ⟨hnone, he⟩
    · rw [he] at h
      exact (iha h).imp_right fun ⟨x, hx, hc⟩ => ⟨x, List.mem_append_left _ hx, hc⟩
    · rw [he] at h
      rcases Bool.or_eq_true_iff.1 h with h | h
      · exact (iha h).imp_right fun ⟨x, hx, hc⟩ => ⟨x, List.mem_append_left _ hx, hc⟩
      · refine (ihb h).imp_right fun ⟨x, hx, hc⟩ => ⟨x, List.mem_append_right _ ?_, hc⟩
        rw [hnone]
        exact hx
  | rounds e min max ih =>
    intro c h
    rw [parse, repeatFrom_cutOff, Bool.false_or, List.any_eq_true] at h
    obtain ⟨d, hd, hcut⟩ := h
    have hreach := (mem_triedFrom (hf e) c.rest hd).1
    rcases ih hcut with ⟨d', hd', hl⟩ | ⟨x, hx, hc⟩
    · exact .inl ⟨d', hreach.trans hd', hl⟩
    · exact .inr ⟨x, List.mem_flatMap.2 ⟨d, hd, hx⟩, hc⟩
  | ahead e ih | notAhead e ih => intro c h; exact ih h
  | rule r => intro c h; exact .inr ⟨(r, c), List.mem_singleton.2 rfl, h⟩

end Expr

/-! ## Matchers -/

namespace Matcher

variable (m : Matcher) (lead : Cursor → Cursor × Bool)

/-- How a rule is called with so many levels left. -/
def call : (levels : Nat) → Fin m.size → Cursor → Attempt
  | 0 => fun _ _ => ⟨none, true⟩
  | levels + 1 => fun i => m.parse lead levels (m.rules.get i)

theorem parse_eq (levels : Nat) : m.parse lead levels = Expr.parse runTerminal lead (m.call lead levels) := by
  cases levels <;> rfl

/-- The calls made in trying an expression. -/
def calls (levels : Nat) (e : Node m.size) (c : Cursor) : List (Fin m.size × Cursor) :=
  e.calls runTerminal lead (m.call lead levels) c

/-- The rules active together at some time while an expression is tried, each with the offset where it was called. -/
def callStacks : (levels : Nat) → Node m.size → Cursor → List (List (Fin m.size × Nat))
  | 0, e, c => [] :: (m.calls lead 0 e c).map fun x => [(x.1, x.2.offset)]
  | levels + 1, e, c =>
    [] :: (m.calls lead (levels + 1) e c).flatMap fun x =>
      (callStacks levels m.rules[x.1] x.2).map ((x.1, x.2.offset) :: ·)

variable {m lead}

/-- The outermost rule of a stack is called by the expression itself, and the others belong to its own run. -/
theorem mem_callStacks {levels : Nat} {e : Node m.size} {c : Cursor} {y : Fin m.size × Nat}
    {st : List (Fin m.size × Nat)} (h : y :: st ∈ m.callStacks lead levels e c) :
    ∃ x ∈ m.calls lead levels e c, y = (x.1, x.2.offset) ∧
      (st = [] ∨ ∃ k, levels = k + 1 ∧ st ∈ m.callStacks lead k m.rules[x.1] x.2) := by
  cases levels with
  | zero =>
    rcases List.mem_cons.1 h with h | h
    · cases h
    · obtain ⟨x, hx, he⟩ := List.mem_map.1 h
      cases he
      exact ⟨x, hx, rfl, .inl rfl⟩
  | succ levels =>
    rcases List.mem_cons.1 h with h | h
    · cases h
    · obtain ⟨x, hx, h⟩ := List.mem_flatMap.1 h
      obtain ⟨st', hst, he⟩ := List.mem_map.1 h
      cases he
      exact ⟨x, hx, rfl, .inr ⟨levels, rfl, hst⟩⟩

/-! ## Cut-offs -/

section CutOff
variable (hreach : ∀ c : Cursor, c.Reaches (lead c).1)
include hreach

theorem calls_reaches {levels : Nat} {e : Node m.size} {c : Cursor} {x : Fin m.size × Cursor}
    (h : x ∈ m.calls lead levels e c) : c.Reaches x.2 := by
  refine Expr.calls_reaches (fun e c => ?_) e h
  rw [← parse_eq]
  exact m.parse_forward hreach levels e c

/-- An attempt is cut off only where a stack is one higher than there are levels, or in skipping. -/
theorem stack_of_cutOff (levels : Nat) : ∀ {e : Node m.size} {c : Cursor},
    (m.parse lead levels e c).cutOff = true →
      (∃ d, c.Reaches d ∧ (lead d).2 = true) ∨ ∃ st ∈ m.callStacks lead levels e c, st.length = levels + 1 := by
  have hf : ∀ (levels : Nat) (e : Node m.size) c, (e.parse runTerminal lead (m.call lead levels) c).Forward c := by
    intro levels e c
    rw [← parse_eq]
    exact m.parse_forward hreach levels e c
  induction levels with
  | zero =>
    intro e c h
    rw [parse_eq] at h
    rcases Expr.call_of_cutOff (hf 0) e h with h | ⟨x, hx, -⟩
    · exact .inl h
    · exact .inr ⟨_, List.mem_cons_of_mem _ (List.mem_map.2 ⟨x, hx, rfl⟩), rfl⟩
  | succ levels ih =>
    intro e c h
    rw [parse_eq] at h
    rcases Expr.call_of_cutOff (hf (levels + 1)) e h with h | ⟨x, hx, hcut⟩
    · exact .inl h
    · rcases ih hcut with ⟨d, hd, hl⟩ | ⟨st, hst, hlen⟩
      · exact .inl ⟨d, (calls_reaches hreach hx).trans hd, hl⟩
      · refine .inr ⟨(x.1, x.2.offset) :: st, List.mem_cons_of_mem _ ?_, by rw [List.length_cons, hlen]⟩
        exact List.mem_flatMap.2 ⟨x, hx, List.mem_map.2 ⟨st, hst, rfl⟩⟩

end CutOff

theorem region_of_foldl_cutOff {levels : Nat} (es : List (Node m.size)) : ∀ {x : Cursor × Bool},
    (es.foldl (m.skipRegion levels) x).2 = true →
      x.2 = true ∨ ∃ e ∈ es, ∃ d, x.1.Reaches d ∧ (m.parseBare levels e d).cutOff = true := by
  induction es with
  | nil => intro x h; exact .inl h
  | cons e es ih =>
    intro x h
    have hx : x.1.Reaches (m.skipRegion levels x e).1 := m.foldl_skipRegion_reaches levels [e] x
    rcases ih h with h | ⟨e', he, d, hd, hcut⟩
    · exact (Bool.or_eq_true_iff.1 h).imp_right fun hcut => ⟨e, List.mem_cons_self, x.1, .refl _, hcut⟩
    · exact .inr ⟨e', List.mem_cons_of_mem _ he, d, hx.trans hd, hcut⟩

theorem region_of_skipOnce_cutOff {levels : Nat} {c : Cursor} (h : (m.skipOnce levels c).2 = true) :
    ∃ e ∈ m.ignored, ∃ d, c.Reaches d ∧ (m.parseBare levels e d).cutOff = true := by
  rcases m.region_of_foldl_cutOff m.ignored h with h | ⟨e, he, d, hd, hcut⟩
  · cases h
  · refine ⟨e, he, d, Cursor.Reaches.trans ?_ hd, hcut⟩
    split
    · exact c.dropWhile_reaches isBlank
    · exact .refl c

/-- Skipping is cut off only in an ignored region. -/
theorem region_of_skip_cutOff {levels : Nat} {c : Cursor} (h : (m.skip levels c).2 = true) :
    ∃ e ∈ m.ignored, ∃ d, c.Reaches d ∧ (m.parseBare levels e d).cutOff = true := by
  have hs := m.skip_skipsTo levels c
  generalize m.skip levels c = x at hs h
  induction hs with
  | done _ => exact m.region_of_skipOnce_cutOff h
  | more _ _ ih =>
    rcases Bool.or_eq_true_iff.1 h with h | h
    · exact m.region_of_skipOnce_cutOff h
    · obtain ⟨e, he, d, hd, hcut⟩ := ih h
      exact ⟨e, he, d, (m.skipOnce_reaches levels _).trans hd, hcut⟩

end Matcher

end PatternLint
