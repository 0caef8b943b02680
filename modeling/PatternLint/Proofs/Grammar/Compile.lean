import Mathlib.Data.List.Forall2
import PatternLint.Grammar.Compile
/-!
# What a grammar is made into

A grammar that can be made ready is turned into its matcher part by part. `Alike` says that two expressions differ in
their terminals and references only, and `Grammar.Resolved` how those of a grammar are replaced: a pattern by its
program, a name by the first position at which it is defined. Main statement: `Grammar.compile_ok`, which takes a
successful `compile` apart once and for all.
-/
namespace PatternLint

section Except
variable {ε α β : Type}

theorem bind_ok {x : Except ε α} {f : α → Except ε β} {b : β} (h : x >>= f = .ok b) :
    ∃ a, x = .ok a ∧ f a = .ok b := by
  cases x with
  | error e => cases h
  | ok a => exact ⟨a, rfl, h⟩

theorem map_ok {x : Except ε α} {f : α → β} {b : β} (h : f <$> x = .ok b) : ∃ a, x = .ok a ∧ f a = b := by
  cases x with
  | error e => cases h
  | ok a => exact ⟨a, rfl, Except.ok.inj h⟩

theorem toOption_map_ok {x : Except ε α} {f : α → β} {b : β} (h : x.toOption.map f = some b) :
    ∃ a, x = .ok a ∧ f a = b := by
  cases x with
  | error e => cases h
  | ok a => exact ⟨a, rfl, Option.some.inj h⟩

theorem mapM_ok {f : α → Except ε β} (as : List α) : ∀ {bs : List β}, as.mapM f = .ok bs →
    List.Forall₂ (fun a b => f a = .ok b) as bs := by
  induction as with
  | nil => intro bs h; cases h; exact .nil
  | cons a as ih =>
    intro bs h
    rw [List.mapM_cons] at h
    obtain ⟨b, hb, h⟩ := bind_ok h
    obtain ⟨bs', hbs, h⟩ := bind_ok h
    cases h
    exact .cons hb (ih hbs)

theorem exists_of_forall₂ {R : α → β → Prop} {as : List α} {bs : List β} (h : List.Forall₂ R as bs) {a : α}
    (ha : a ∈ as) : ∃ b ∈ bs, R a b := by
  induction h with
  | nil => simp at ha
  | cons hab _ ih =>
    rcases List.mem_cons.1 ha with rfl | ha
    · exact ⟨_, by simp, hab⟩
    · obtain ⟨b, hb, hab⟩ := ih ha
      exact ⟨b, by simp [hb], hab⟩

theorem vector_mapM_ok {n : Nat} {f : α → Except ε β} {as : Vector α n} {bs : Vector β n} (h : as.mapM f = .ok bs)
    (i : Fin n) : f (as.get i) = .ok (bs.get i) := by
  -- the library has no lemma on the entries of a `mapM`, only its passage to arrays and lists
  have ha : as.toList.mapM f = .ok bs.toList := by
    have := congrArg (fun x => Array.toList <$> Vector.toArray <$> x) h
    rwa [Vector.toArray_mapM, Array.toList_mapM] at this
  have := (mapM_ok as.toList ha).get (i := i) (by simp) (by simp)
  simp only [List.get_eq_getElem, Vector.getElem_toList] at this
  exact this

/-- The reason why something failed. -/
def fault? : Except ε α → Option ε
  | .ok _ => none
  | .error e => some e

theorem fault?_eq_some {x : Except ε α} {e : ε} : fault? x = some e ↔ x = .error e := by
  cases x <;> simp [fault?]

theorem fault?_eq_none {x : Except ε α} : fault? x = none ↔ ∃ a, x = .ok a := by
  cases x <;> simp [fault?]

theorem fault?_map (f : α → β) (x : Except ε α) : fault? (f <$> x) = fault? x := by
  cases x <;> rfl

/-- Of several things that are tried one after the other, the first that fails decides. -/
theorem fault?_mapM (f : α → Except ε β) (as : List α) :
    fault? (as.mapM f) = as.findSome? fun a => fault? (f a) := by
  induction as with
  | nil => rfl
  | cons a as ih =>
    rw [List.mapM_cons, List.findSome?_cons, ← ih]
    cases f a with
    | error e => rfl
    | ok b => cases as.mapM f <;> rfl

theorem fault?_vector_mapM {n : Nat} (f : α → Except ε β) (as : Vector α n) :
    fault? (as.mapM f) = as.toList.findSome? fun a => fault? (f a) := by
  rw [← fault?_mapM, ← fault?_map Vector.toArray, Vector.toArray_mapM, ← fault?_map Array.toList, Array.toList_mapM]
  rfl

end Except

/-! ## Expressions with other terminals and references -/

namespace Expr

variable {τ τ' ρ ρ' ε : Type}

/-- The expressions are the same but for terminals related by `T` and references related by `R`. -/
inductive Alike (T : τ → τ' → Prop) (R : ρ → ρ' → Prop) : Expr τ ρ → Expr τ' ρ' → Prop
  | empty : Alike T R empty empty
  | never : Alike T R never never
  | literal (word : List Char) : Alike T R (literal word) (literal word)
  | terminal {t : τ} {t' : τ'} : T t t' → Alike T R (terminal t) (terminal t')
  | any : Alike T R any any
  | seq {a b : Expr τ ρ} {a' b' : Expr τ' ρ'} : Alike T R a a' → Alike T R b b' → Alike T R (seq a b) (seq a' b')
  | choice {a b : Expr τ ρ} {a' b' : Expr τ' ρ'} : Alike T R a a' → Alike T R b b' →
      Alike T R (choice a b) (choice a' b')
  | rounds {e : Expr τ ρ} {e' : Expr τ' ρ'} (min : Nat) (max : Option Nat) : Alike T R e e' →
      Alike T R (rounds e min max) (rounds e' min max)
  | ahead {e : Expr τ ρ} {e' : Expr τ' ρ'} : Alike T R e e' → Alike T R (ahead e) (ahead e')
  | notAhead {e : Expr τ ρ} {e' : Expr τ' ρ'} : Alike T R e e' → Alike T R (notAhead e) (notAhead e')
  | rule {r : ρ} {r' : ρ'} : R r r' → Alike T R (rule r) (rule r')

theorem Alike.imp {T T' : τ → τ' → Prop} {R R' : ρ → ρ' → Prop} (hT : ∀ t t', T t t' → T' t t')
    (hR : ∀ r r', R r r' → R' r r') {e : Expr τ ρ} {e' : Expr τ' ρ'} (h : e.Alike T R e') : e.Alike T' R' e' := by
  induction h with
  | empty => exact .empty
  | never => exact .never
  | literal word => exact .literal word
  | terminal ht => exact .terminal (hT _ _ ht)
  | any => exact .any
  | seq _ _ iha ihb => exact .seq iha ihb
  | choice _ _ iha ihb => exact .choice iha ihb
  | rounds min max _ ih => exact .rounds min max ih
  | ahead _ ih => exact .ahead ih
  | notAhead _ ih => exact .notAhead ih
  | rule hr => exact .rule (hR _ _ hr)

theorem resolve_alike {onTerminal : τ → Except ε τ'} {onRule : ρ → Except ε ρ'} {T : τ → τ' → Prop} {R : ρ → ρ' → Prop}
    (hT : ∀ t t', onTerminal t = .ok t' → T t t') (hR : ∀ r r', onRule r = .ok r' → R r r') (e : Expr τ ρ) :
    ∀ {e' : Expr τ' ρ'}, e.resolve onTerminal onRule = .ok e' → Alike T R e e' := by
  induction e with
  | empty => intro e' h; cases h; exact .empty
  | never => intro e' h; cases h; exact .never
  | literal word => intro e' h; cases h; exact .literal word
  | terminal t =>
    intro e' h
    obtain ⟨t', ht, rfl⟩ := map_ok h
    exact .terminal (hT t t' ht)
  | any => intro e' h; cases h; exact .any
  | seq a b iha ihb =>
    intro e' h
    obtain ⟨a', ha, h⟩ := bind_ok h
    obtain ⟨b', hb, h⟩ := bind_ok h
    cases h
    exact .seq (iha ha) (ihb hb)
  | choice a b iha ihb =>
    intro e' h
    obtain ⟨a', ha, h⟩ := bind_ok h
    obtain ⟨b', hb, h⟩ := bind_ok h
    cases h
    exact .choice (iha ha) (ihb hb)
  | rounds e min max ih =>
    intro e' h
    obtain ⟨d, hd, h⟩ := bind_ok h
    cases h
    exact .rounds min max (ih hd)
  | ahead e ih =>
    intro e' h
    obtain ⟨d, hd, rfl⟩ := map_ok h
    exact .ahead (ih hd)
  | notAhead e ih =>
    intro e' h
    obtain ⟨d, hd, rfl⟩ := map_ok h
    exact .notAhead (ih hd)
  | rule r =>
    intro e' h
    obtain ⟨r', hr, rfl⟩ := map_ok h
    exact .rule (hR r r' hr)

end Expr

/-! ## Grammars -/

namespace Grammar

/-- The program is that of a terminal. -/
def Compiles (pattern : String) (p : Regex.Program) : Prop := Regex.compile {} (anchoredPattern pattern) = .ok p

/-- The node is the expression with its patterns and names replaced. -/
def Resolved (names : List String) (e : Expr String String) (node : Node names.length) : Prop :=
  e.Alike Compiles (fun name i => names.finIdxOf? name = some i) node

theorem resolveIn_resolved {names : List String} {rule : String} {e : Expr String String} {node : Node names.length}
    (h : resolveIn names rule e = .ok node) : Resolved names e node := by
  refine e.resolve_alike (fun pattern p hp => ?_) (fun name i hi => ?_) h
  · unfold compileTerminal at hp
    unfold Compiles
    cases hc : Regex.compile {} (anchoredPattern pattern) with
    | error fault =>
      rw [hc] at hp
      cases hp
    | ok p' =>
      rw [hc] at hp
      cases hp
      rfl
  · unfold findRule at hi
    split at hi
    · next j hj =>
      split at hi
      · cases hi
      · cases hi
        exact hj
    · cases hi

theorem resolved_of_mapM {g : Grammar} {rules : Vector (Node (g.rules.map (·.1)).length) (g.rules.map (·.1)).length}
    (h : (Vector.mk g.rules.toArray (by simp)).mapM (fun r => resolveIn (g.rules.map (·.1)) r.1 r.2) = .ok rules)
    {i : Fin (g.rules.map (·.1)).length} {name : String} {e : Expr String String}
    (hi : g.rules[i.val]? = some (name, e)) : Resolved (g.rules.map (·.1)) e (rules.get i) := by
  have hr := vector_mapM_ok h i
  obtain ⟨hlt, hi⟩ := List.getElem?_eq_some_iff.1 hi
  change resolveIn _ g.rules[i.val].1 g.rules[i.val].2 = .ok (rules.get i) at hr
  rw [hi] at hr
  exact resolveIn_resolved hr

/-- What a grammar that can be made ready is made into. -/
theorem compile_ok {g : Grammar} {m : Matcher} (h : g.compile = .ok m) :
    ∃ (start : Node (g.rules.map (·.1)).length) (rules : Vector (Node (g.rules.map (·.1)).length) _)
      (ignored : List (Node (g.rules.map (·.1)).length)),
      m = ⟨(g.rules.map (·.1)).length, start, rules, ignored, g.skipBlanks⟩ ∧
      Resolved (g.rules.map (·.1)) g.start start ∧
      (∀ (i : Fin (g.rules.map (·.1)).length) (name : String) (e : Expr String String),
        g.rules[i.val]? = some (name, e) → Resolved (g.rules.map (·.1)) e (rules.get i)) ∧
      List.Forall₂ (Resolved (g.rules.map (·.1))) g.ignored ignored ∧
      LeftRecursion.find? matchesEmpty start rules = none := by
  unfold compile at h
  obtain ⟨start, hstart, h⟩ := bind_ok h
  obtain ⟨rules, hrules, h⟩ := bind_ok h
  obtain ⟨ignored, hignored, h⟩ := bind_ok h
  split at h
  · cases h
  · next hfind =>
    cases h
    exact ⟨start, rules, ignored, rfl, resolveIn_resolved hstart, fun _ _ _ hi => resolved_of_mapM hrules hi,
      (mapM_ok _ hignored).imp fun _ _ => resolveIn_resolved, hfind⟩

end Grammar

end PatternLint
