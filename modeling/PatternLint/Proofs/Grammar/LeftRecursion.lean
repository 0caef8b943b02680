import Mathlib.Data.Fintype.Card
import Mathlib.Data.Fintype.EquivFin
import Mathlib.Data.List.Nodup
import PatternLint.Proofs.Grammar.Compile
/-!
# What the check for left recursion shows

The rules taken for nullable are closed under the rules that make an expression nullable (`nullable_closed`): each
round but the last finds one more, so that there are rounds enough. And where the walk through the leftmost calls finds
no rule that reaches itself, these calls are well-founded (`wellFounded_of_find?`): the walk lists the rules it is done
with, and whatever one of them calls first stands further down in the list. A rule that the walk does find reaches
itself (`transGen_of_find?`), because each rule on the way is called first by the one before it.
-/
namespace PatternLint.LeftRecursion

variable {τ : Type} {n : Nat}

/-! ## Nullable rules -/

section Nullable
variable (onTerminal : τ → Bool) (rules : Vector (Expr τ (Fin n)) n)

/-- The rules known to be nullable. -/
def knownSet (known : Vector Bool n) : Finset (Fin n) := Finset.univ.filter fun i => known.get i = true

theorem mem_knownSet {known : Vector Bool n} {i : Fin n} : i ∈ knownSet known ↔ known.get i = true := by
  simp [knownSet]

theorem knownSet_injective {known known' : Vector Bool n} (h : knownSet known = knownSet known') : known = known' := by
  ext i hi
  have : known.get ⟨i, hi⟩ = true ↔ known'.get ⟨i, hi⟩ = true := by rw [← mem_knownSet, h, mem_knownSet]
  exact Bool.eq_iff_iff.2 this

theorem get_grow (known : Vector Bool n) (i : Fin n) :
    (grow onTerminal rules known).get i = (known.get i || (rules.get i).nullable onTerminal known.get) :=
  Vector.getElem_ofFn i.isLt

theorem knownSet_subset_grow (known : Vector Bool n) : knownSet known ⊆ knownSet (grow onTerminal rules known) := by
  intro i hi
  rw [mem_knownSet] at hi ⊢
  rw [get_grow, hi, Bool.true_or]

/-- After `k` rounds nothing changes any more, or `k` rules are known at least. -/
theorem repeat_grow (k : Nat) (start : Vector Bool n) :
    grow onTerminal rules (Nat.repeat (grow onTerminal rules) k start) = Nat.repeat (grow onTerminal rules) k start ∨
      k ≤ (knownSet (Nat.repeat (grow onTerminal rules) k start)).card := by
  induction k with
  | zero => exact .inr (Nat.zero_le _)
  | succ k ih =>
    rw [Nat.repeat]
    generalize Nat.repeat (grow onTerminal rules) k start = known at ih
    by_cases hfix : grow onTerminal rules known = known
    · exact .inl (by rw [hfix, hfix])
    · have hk : k ≤ (knownSet known).card := ih.resolve_left hfix
      have hss : knownSet known ⊂ knownSet (grow onTerminal rules known) :=
        (knownSet_subset_grow onTerminal rules known).ssubset_of_ne fun h => hfix (knownSet_injective h).symm
      exact .inr (Nat.lt_of_le_of_lt hk (Finset.card_lt_card hss))

theorem grow_nullableRules :
    grow onTerminal rules (nullableRules onTerminal rules) = nullableRules onTerminal rules := by
  rcases repeat_grow onTerminal rules n (Vector.replicate n false) with h | h
  · exact h
  · -- all rules are known, and a round leaves them so
    have hall : knownSet (nullableRules onTerminal rules) = Finset.univ :=
      Finset.eq_univ_of_card _ (Nat.le_antisymm (Finset.card_le_univ _) (by rw [Fintype.card_fin]; exact h))
    have := knownSet_subset_grow onTerminal rules (nullableRules onTerminal rules)
    rw [hall] at this
    exact knownSet_injective ((Finset.univ_subset_iff.1 this).trans hall.symm)

/-- A rule whose expression is nullable is among the nullable rules. -/
theorem nullable_closed (i : Fin n)
    (h : (rules.get i).nullable onTerminal (nullableRules onTerminal rules).get = true) :
    (nullableRules onTerminal rules).get i = true := by
  rw [← grow_nullableRules, get_grow, h, Bool.or_true]

end Nullable

/-! ## The walk -/

section Walk
variable (edges : Fin n → List (Fin n))

/-- Whatever a rule of the list calls first stands further down in it. -/
def Sorted : List (Fin n) → Prop
  | [] => True
  | i :: done => (∀ j ∈ edges i, j ∈ done) ∧ Sorted done

variable {edges}

theorem Sorted.acc (done : List (Fin n)) (h : Sorted edges done) : ∀ i ∈ done, Acc (fun j i => j ∈ edges i) i := by
  induction done with
  | nil => intro i hi; cases hi
  | cons i done ih =>
    obtain ⟨hi, hdone⟩ := h
    intro k hk
    rcases List.mem_cons.1 hk with rfl | hk
    · exact ⟨_, fun j hj => ih hdone j (hi j hj)⟩
    · exact ih hdone k hk

/-- A list of rules that were walked through extends another and holds the given ones too. -/
structure Extends (edges : Fin n → List (Fin n)) (finished : List (Fin n)) (roots : List (Fin n))
    (done : List (Fin n)) : Prop where
  sorted : Sorted edges done
  finished : finished ⊆ done
  roots : roots ⊆ done

/-- Walking on from each of several rules does what walking on from one does. -/
theorem foldlM_extends {step : List (Fin n) → Fin n → Except (Fin n) (List (Fin n))} (roots : List (Fin n))
    (hstep : ∀ finished done, ∀ j ∈ roots, Sorted edges finished → step finished j = .ok done →
      Extends edges finished [j] done) :
    ∀ {finished done : List (Fin n)}, Sorted edges finished → roots.foldlM step finished = .ok done →
      Extends edges finished roots done := by
  induction roots with
  | nil =>
    intro finished done hs h
    cases h
    exact ⟨hs, List.Subset.refl _, List.nil_subset _⟩
  | cons j roots ih =>
    intro finished done hs h
    rw [List.foldlM_cons] at h
    obtain ⟨mid, hj, h⟩ := bind_ok h
    have hmid := hstep finished mid j List.mem_cons_self hs hj
    have hdone := ih (fun f d k hk => hstep f d k (List.mem_cons_of_mem _ hk)) hmid.sorted h
    refine ⟨hdone.sorted, List.Subset.trans hmid.finished hdone.finished, fun k hk => ?_⟩
    rcases List.mem_cons.1 hk with rfl | hk
    · exact hdone.finished (hmid.roots List.mem_cons_self)
    · exact hdone.roots hk

/-- The fuel is never used up, because the way to a rule does not repeat one. -/
theorem visit_extends (fuel : Nat) : ∀ {active finished done : List (Fin n)} {i : Fin n}, (i :: active).Nodup →
    n ≤ fuel + active.length → Sorted edges finished → visit edges fuel active finished i = .ok done →
      Extends edges finished [i] done := by
  induction fuel with
  | zero =>
    intro active finished done i hnodup hfuel _ _
    -- the way would have more rules than there are
    have := hnodup.length_le_card
    rw [List.length_cons, Fintype.card_fin] at this
    omega
  | succ fuel ih =>
    intro active finished done i hnodup hfuel hs h
    rw [visit] at h
    obtain ⟨mid, hmid, h⟩ := bind_ok h
    cases h
    have hext : Extends edges finished (edges i) mid := by
      refine foldlM_extends (edges i) (fun finished done j _ hs h => ?_) hs hmid
      split at h
      · cases h
      · next hactive =>
        split at h
        · next hfinished =>
          cases h
          exact ⟨hs, List.Subset.refl _, by simpa using hfinished⟩
        · refine ih (List.nodup_cons.2 ⟨by simpa using hactive, hnodup⟩) ?_ hs h
          rw [List.length_cons]
          omega
    exact ⟨⟨fun j hj => hext.roots hj, hext.sorted⟩, List.subset_cons_of_subset i hext.finished, by simp⟩

theorem visitAll_extends {roots done : List (Fin n)} (h : visitAll edges [] roots = .ok done) :
    Extends edges [] roots done := by
  refine foldlM_extends roots (fun finished done i _ hs h => ?_) trivial h
  split at h
  · next hfinished =>
    cases h
    exact ⟨hs, List.Subset.refl _, by simpa using hfinished⟩
  · exact visit_extends n (List.nodup_singleton i) (Nat.le_add_right n _) hs h

theorem foldlM_error {ε α β : Type} {step : β → α → Except ε β} {e : ε} (as : List α) : ∀ {b : β},
    as.foldlM step b = .error e → ∃ a ∈ as, ∃ b', step b' a = .error e := by
  induction as with
  | nil => intro b h; cases h
  | cons a as ih =>
    intro b h
    rw [List.foldlM_cons] at h
    cases hb : step b a with
    | error e' =>
      rw [hb] at h
      cases h
      exact ⟨a, List.mem_cons_self, b, hb⟩
    | ok b' =>
      rw [hb] at h
      obtain ⟨a', ha', hstep⟩ := ih h
      exact ⟨a', List.mem_cons_of_mem _ ha', hstep⟩

/-- A rule on the way reaches the one at its end. -/
theorem reflTransGen_of_mem_active {i : Fin n} (active : List (Fin n)) :
    (i :: active).IsChain (fun a b => a ∈ edges b) → ∀ j ∈ i :: active,
      Relation.ReflTransGen (fun a b => b ∈ edges a) j i := by
  induction active generalizing i with
  | nil =>
    intro _ j hj
    cases List.mem_singleton.1 hj
    exact .refl
  | cons k active ih =>
    intro hway j hj
    obtain ⟨hik, hway⟩ := List.isChain_cons_cons.1 hway
    rcases List.mem_cons.1 hj with rfl | hj
    · exact .refl
    · exact (ih hway j hj).tail hik

theorem visit_error (fuel : Nat) : ∀ {active finished : List (Fin n)} {i j : Fin n},
    (i :: active).IsChain (fun a b => a ∈ edges b) → visit edges fuel active finished i = .error j →
      Relation.TransGen (fun a b => b ∈ edges a) j j := by
  induction fuel with
  | zero => intro active finished i j _ h; cases h
  | succ fuel ih =>
    intro active finished i j hway h
    rw [visit] at h
    cases hfold : (edges i).foldlM (fun finished j =>
        if (i :: active).contains j then .error j
        else if finished.contains j then .ok finished
        else visit edges fuel (i :: active) finished j) finished with
    | ok done =>
      rw [hfold] at h
      cases h
    | error j' =>
      rw [hfold] at h
      cases h
      obtain ⟨k, hk, mid, hstep⟩ := foldlM_error (edges i) hfold
      split at hstep
      · next hactive =>
        -- the call from the end of the way goes back to a rule on it
        cases hstep
        exact .tail' (reflTransGen_of_mem_active active hway _ (by simpa using hactive)) hk
      · split at hstep
        · cases hstep
        · exact ih (List.isChain_cons_cons.2 ⟨hk, hway⟩) hstep

end Walk

/-- Where no rule is found to be left-recursive, no rule reaches itself through leftmost calls. -/
theorem wellFounded_of_find? {onTerminal : τ → Bool} {start : Expr τ (Fin n)} {rules : Vector (Expr τ (Fin n)) n}
    (h : find? onTerminal start rules = none) : WellFounded fun j i : Fin n =>
      j ∈ (rules.get i).leftmost onTerminal (nullableRules onTerminal rules).get := by
  unfold find? at h
  simp only at h
  split at h
  · next done hdone =>
    have hext := visitAll_extends hdone
    exact ⟨fun i => hext.sorted.acc done i (hext.roots (List.mem_append_right _ (List.mem_finRange i)))⟩
  · cases h

/-- A rule that is found to be left-recursive reaches itself through leftmost calls. -/
theorem transGen_of_find? {onTerminal : τ → Bool} {start : Expr τ (Fin n)} {rules : Vector (Expr τ (Fin n)) n}
    {j : Fin n} (h : find? onTerminal start rules = some j) : Relation.TransGen (fun i j : Fin n =>
      j ∈ (rules.get i).leftmost onTerminal (nullableRules onTerminal rules).get) j j := by
  unfold find? at h
  simp only at h
  split at h
  · cases h
  · next k hk =>
    cases h
    obtain ⟨i, -, finished, hi⟩ := foldlM_error _ hk
    split at hi
    · cases hi
    · exact visit_error n (.singleton i) hi

end PatternLint.LeftRecursion
