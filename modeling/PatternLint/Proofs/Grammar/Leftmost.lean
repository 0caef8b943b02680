import Mathlib.Order.WellFounded
import PatternLint.Proofs.Grammar.Correct
import PatternLint.Proofs.Grammar.LeftRecursion
/-!
# The leftmost calls of a grammar as written

`Nullable` says which expressions of a grammar can succeed without consuming, by the least relation that its rules
allow, and `Leftmost` which rules an expression can call before anything is consumed. They know names and no positions.
Main statements: the rules that the check takes for nullable are those that are (`nullable_iff`), so that it walks along the
leftmost calls and no others (`mem_leftmost_iff`), and it finds a rule exactly if some rule reaches itself
(`acyclic_of_find?`, `cycle_of_find?`).
-/
namespace PatternLint.Grammar

section Written
variable (g : Grammar)

/-- The expression can succeed without consuming. A terminal counts if it matches the empty text, and a rule if the
expression does that its name stands for. -/
inductive Nullable : Expr String String → Prop
  | empty : Nullable .empty
  | literal : Nullable (.literal [])
  | terminal {pattern : String} {p : Regex.Program} : Compiles pattern p → matchesEmpty p = true →
      Nullable (.terminal pattern)
  | seq {a b : Expr String String} : Nullable a → Nullable b → Nullable (.seq a b)
  | choice_first {a b : Expr String String} : Nullable a → Nullable (.choice a b)
  | choice_second {a b : Expr String String} : Nullable b → Nullable (.choice a b)
  /-- No round need be made. -/
  | rounds_zero {e : Expr String String} {max : Option Nat} : Nullable (.rounds e 0 max)
  | rounds {e : Expr String String} {min : Nat} {max : Option Nat} : Nullable e → Nullable (.rounds e min max)
  | ahead {e : Expr String String} : Nullable (.ahead e)
  | notAhead {e : Expr String String} : Nullable (.notAhead e)
  | rule {name : String} {e : Expr String String} : g.rules.lookup name = some e → Nullable e → Nullable (.rule name)

/-- The expression can call the rule of a name before anything is consumed: only what is nullable comes before it. -/
inductive Leftmost : Expr String String → String → Prop
  | seq_first {a b : Expr String String} {name : String} : Leftmost a name → Leftmost (.seq a b) name
  | seq_second {a b : Expr String String} {name : String} : g.Nullable a → Leftmost b name → Leftmost (.seq a b) name
  | choice_first {a b : Expr String String} {name : String} : Leftmost a name → Leftmost (.choice a b) name
  | choice_second {a b : Expr String String} {name : String} : Leftmost b name → Leftmost (.choice a b) name
  | rounds {e : Expr String String} {min : Nat} {max : Option Nat} {name : String} : Leftmost e name →
      Leftmost (.rounds e min max) name
  | ahead {e : Expr String String} {name : String} : Leftmost e name → Leftmost (.ahead e) name
  | notAhead {e : Expr String String} {name : String} : Leftmost e name → Leftmost (.notAhead e) name
  | rule {name : String} : Leftmost (.rule name) name

/-- The rule of the first name can call that of the second before anything is consumed. -/
def CallsFirst (name target : String) : Prop := ∃ e, g.rules.lookup name = some e ∧ g.Leftmost e target

end Written

/-! ## Names and positions -/

/-- The names of the rules in the order in which they were first defined. -/
abbrev names (g : Grammar) : List String := g.rules.map (·.1)

/-- The rules of a grammar with their patterns and names replaced. -/
def ResolvedRules (g : Grammar) (rules : Vector (Node g.names.length) g.names.length) : Prop :=
  ∀ (i : Fin g.names.length) (name : String) (e : Expr String String), g.rules[i.val]? = some (name, e) →
    Resolved g.names e (rules.get i)

/-- The position to which a name is resolved. -/
def At (g : Grammar) (name : String) (i : Fin g.names.length) : Prop :=
  g.names.finIdxOf? name = some i

variable {g : Grammar} {rules : Vector (Node g.names.length) g.names.length}

theorem At.get_eq {name : String} {i : Fin g.names.length} (h : g.At name i) :
    g.names.get i = name :=
  (List.finIdxOf?_eq_some_iff.1 h).1

theorem At.unique {name : String} {i j : Fin g.names.length} (hi : g.At name i) (hj : g.At name j) :
    i = j :=
  Option.some.inj (hi.symm.trans hj)

theorem exists_at_of_lookup {name : String} {e : Expr String String} (h : g.rules.lookup name = some e) :
    ∃ i, g.At name i := by
  obtain ⟨before, after, hrules, -⟩ := List.lookup_eq_some_iff.1 h
  have hmem : name ∈ g.names := by simp [names, hrules]
  exact Option.isSome_iff_exists.1 (by simpa using hmem)

theorem ResolvedRules.lookup_of_at (hrules : g.ResolvedRules rules) {name : String} {i : Fin g.names.length}
    (h : g.At name i) :
    ∃ e, g.rules.lookup name = some e ∧ Resolved g.names e (rules.get i) := by
  obtain ⟨e, hget, hlookup⟩ := lookup_of_finIdxOf? h
  exact ⟨e, hlookup, hrules i name e hget⟩

/-! ## Nullable rules -/

/-- What is nullable, given rules that are, is nullable. -/
theorem nullable_of_known {known : Vector Bool g.names.length}
    (hknown : ∀ name i, g.At name i → known.get i = true → g.Nullable (.rule name)) {e : Expr String String}
    {node : Node g.names.length} (he : Resolved g.names e node) :
    node.nullable matchesEmpty known.get = true → g.Nullable e := by
  induction he with
  | empty => intro _; exact .empty
  | never | any => intro h; cases h
  | literal word =>
    intro h
    obtain rfl := List.isEmpty_iff.1 h
    exact .literal
  | terminal hp => intro h; exact .terminal hp h
  | seq _ _ iha ihb =>
    intro h
    obtain ⟨ha, hb⟩ := Bool.and_eq_true_iff.1 h
    exact .seq (iha ha) (ihb hb)
  | choice _ _ iha ihb =>
    intro h
    rcases Bool.or_eq_true_iff.1 h with ha | hb
    · exact .choice_first (iha ha)
    · exact .choice_second (ihb hb)
  | rounds min max _ ih =>
    intro h
    rcases Bool.or_eq_true_iff.1 h with hmin | he
    · obtain rfl := beq_iff_eq.1 hmin
      exact .rounds_zero
    · exact .rounds (ih he)
  | ahead _ _ => intro _; exact .ahead
  | notAhead _ _ => intro _; exact .notAhead
  | rule hi => intro h; exact hknown _ _ hi h

/-- By the rounds in which the nullable rules are found. -/
theorem ResolvedRules.known_nullable (hrules : g.ResolvedRules rules) (k : Nat) :
    ∀ {name : String} {i : Fin g.names.length}, g.At name i →
      (Nat.repeat (LeftRecursion.grow matchesEmpty rules) k (Vector.replicate _ false)).get i = true →
        g.Nullable (.rule name) := by
  induction k with
  | zero =>
    intro name i _ h
    simp [Nat.repeat, Vector.get] at h
  | succ k ih =>
    intro name i hi h
    rw [Nat.repeat, LeftRecursion.get_grow, Bool.or_eq_true] at h
    rcases h with h | h
    · exact ih hi h
    · obtain ⟨e, hlookup, he⟩ := hrules.lookup_of_at hi
      exact .rule hlookup (nullable_of_known (fun _ _ => ih) he h)

/-- What is found to be nullable is what is. -/
theorem ResolvedRules.nullable_iff (hrules : g.ResolvedRules rules) {e : Expr String String}
    {node : Node g.names.length} (he : Resolved g.names e node) :
    node.nullable matchesEmpty (LeftRecursion.nullableRules matchesEmpty rules).get = true ↔ g.Nullable e := by
  constructor
  · exact nullable_of_known (fun _ _ => hrules.known_nullable _) he
  · intro h
    induction h generalizing node with
    | empty | ahead | notAhead => cases he; rfl
    | literal => cases he; rfl
    | terminal hp hempty =>
      cases he with
      | terminal hp' =>
        cases hp.symm.trans hp'
        exact hempty
    | seq _ _ iha ihb =>
      cases he with
      | seq ha hb => exact Bool.and_eq_true_iff.2 ⟨iha ha, ihb hb⟩
    | choice_first _ iha =>
      cases he with
      | choice ha _ => exact Bool.or_eq_true_iff.2 (.inl (iha ha))
    | choice_second _ ihb =>
      cases he with
      | choice _ hb => exact Bool.or_eq_true_iff.2 (.inr (ihb hb))
    | rounds_zero => cases he; rfl
    | rounds _ ih =>
      cases he with
      | rounds min max he => exact Bool.or_eq_true_iff.2 (.inr (ih he))
    | rule hlookup _ ih =>
      cases he with
      | rule hi =>
        obtain ⟨e', hlookup', he'⟩ := hrules.lookup_of_at hi
        cases hlookup.symm.trans hlookup'
        exact LeftRecursion.nullable_closed _ _ _ (ih he')

/-! ## Leftmost calls -/

/-- The positions that are found to be called first are those of the names that are. -/
theorem ResolvedRules.mem_leftmost_iff (hrules : g.ResolvedRules rules) {e : Expr String String}
    {node : Node g.names.length} (he : Resolved g.names e node) {i : Fin g.names.length} :
    i ∈ node.leftmost matchesEmpty (LeftRecursion.nullableRules matchesEmpty rules).get ↔
      ∃ name, g.At name i ∧ g.Leftmost e name := by
  induction he with
  | empty | never | any | literal _ | terminal _ =>
    simp only [Expr.leftmost, List.not_mem_nil, false_iff]
    rintro ⟨name, -, h⟩
    cases h
  | @seq a b a' b' ha _ iha ihb =>
    have hseq : i ∈ (Expr.seq a' b').leftmost matchesEmpty (LeftRecursion.nullableRules matchesEmpty rules).get ↔
        i ∈ a'.leftmost matchesEmpty (LeftRecursion.nullableRules matchesEmpty rules).get ∨
          (a'.nullable matchesEmpty (LeftRecursion.nullableRules matchesEmpty rules).get = true ∧
            i ∈ b'.leftmost matchesEmpty (LeftRecursion.nullableRules matchesEmpty rules).get) := by
      rw [Expr.leftmost]
      split <;> simp_all
    rw [hseq, iha, ihb, hrules.nullable_iff ha]
    constructor
    · rintro (⟨name, hi, h⟩ | ⟨hnull, name, hi, h⟩)
      · exact ⟨name, hi, .seq_first h⟩
      · exact ⟨name, hi, .seq_second hnull h⟩
    · rintro ⟨name, hi, h⟩
      cases h with
      | seq_first h => exact .inl ⟨name, hi, h⟩
      | seq_second hnull h => exact .inr ⟨hnull, name, hi, h⟩
  | choice _ _ iha ihb =>
    rw [Expr.leftmost, List.mem_append, iha, ihb]
    constructor
    · rintro (⟨name, hi, h⟩ | ⟨name, hi, h⟩)
      · exact ⟨name, hi, .choice_first h⟩
      · exact ⟨name, hi, .choice_second h⟩
    · rintro ⟨name, hi, h⟩
      cases h with
      | choice_first h => exact .inl ⟨name, hi, h⟩
      | choice_second h => exact .inr ⟨name, hi, h⟩
  | rounds min max _ ih =>
    refine ih.trans (exists_congr fun name => and_congr_right fun _ => ⟨.rounds, fun h => ?_⟩)
    cases h with
    | rounds h => exact h
  | ahead _ ih =>
    refine ih.trans (exists_congr fun name => and_congr_right fun _ => ⟨.ahead, fun h => ?_⟩)
    cases h with
    | ahead h => exact h
  | notAhead _ ih =>
    refine ih.trans (exists_congr fun name => and_congr_right fun _ => ⟨.notAhead, fun h => ?_⟩)
    cases h with
    | notAhead h => exact h
  | @rule name j hj =>
    rw [Expr.leftmost, List.mem_singleton]
    constructor
    · rintro rfl
      exact ⟨name, hj, .rule⟩
    · rintro ⟨name', hi, h⟩
      cases h
      exact At.unique hi hj

/-- A name that is called first has a position. -/
theorem exists_at_of_leftmost {e : Expr String String} {node : Node g.names.length} (he : Resolved g.names e node)
    {name : String} (h : g.Leftmost e name) : ∃ i, g.At name i := by
  induction h generalizing node with
  | seq_first _ ih =>
    cases he with
    | seq ha _ => exact ih ha
  | seq_second _ _ ih =>
    cases he with
    | seq _ hb => exact ih hb
  | choice_first _ ih =>
    cases he with
    | choice ha _ => exact ih ha
  | choice_second _ ih =>
    cases he with
    | choice _ hb => exact ih hb
  | rounds _ ih =>
    cases he with
    | rounds _ _ he => exact ih he
  | ahead _ ih =>
    cases he with
    | ahead he => exact ih he
  | notAhead _ ih =>
    cases he with
    | notAhead he => exact ih he
  | rule =>
    cases he with
    | rule hi => exact ⟨_, hi⟩

/-- The positions that a position calls first. -/
def edges (rules : Vector (Node g.names.length) g.names.length) (i : Fin g.names.length) : List (Fin g.names.length) :=
  (rules.get i).leftmost matchesEmpty (LeftRecursion.nullableRules matchesEmpty rules).get

theorem ResolvedRules.mem_edges_iff (hrules : g.ResolvedRules rules) {name : String} {i j : Fin g.names.length}
    (hi : g.At name i) : j ∈ edges rules i ↔ ∃ target, g.At target j ∧ g.CallsFirst name target := by
  obtain ⟨e, hlookup, he⟩ := hrules.lookup_of_at hi
  rw [edges, hrules.mem_leftmost_iff he]
  refine exists_congr fun target => and_congr_right fun _ => ⟨fun h => ⟨e, hlookup, h⟩, ?_⟩
  rintro ⟨e', hlookup', h⟩
  cases hlookup.symm.trans hlookup'
  exact h

/-- A position that is called first belongs to a name. -/
theorem ResolvedRules.exists_at_of_mem_edges (hrules : g.ResolvedRules rules) {i j : Fin g.names.length}
    (h : j ∈ edges rules i) : ∃ name, g.At name j := by
  have hlt : i.val < g.rules.length := by simpa using i.isLt
  have he := hrules i g.rules[i.val].1 g.rules[i.val].2 (List.getElem?_eq_getElem hlt)
  obtain ⟨name, hj, -⟩ := (hrules.mem_leftmost_iff he).1 h
  exact ⟨name, hj⟩

theorem ResolvedRules.transGen_callsFirst (hrules : g.ResolvedRules rules) {i j : Fin g.names.length}
    (h : Relation.TransGen (fun i j => j ∈ edges rules i) i j) : ∀ {name : String}, g.At name i →
      ∃ target, g.At target j ∧ Relation.TransGen g.CallsFirst name target := by
  induction h with
  | single h =>
    intro name hi
    obtain ⟨target, hj, hcall⟩ := (hrules.mem_edges_iff hi).1 h
    exact ⟨target, hj, .single hcall⟩
  | tail _ h ih =>
    intro name hi
    obtain ⟨mid, hmid, hpath⟩ := ih hi
    obtain ⟨target, hj, hcall⟩ := (hrules.mem_edges_iff hmid).1 h
    exact ⟨target, hj, hpath.tail hcall⟩

theorem ResolvedRules.transGen_edges (hrules : g.ResolvedRules rules) {name target : String}
    (h : Relation.TransGen g.CallsFirst name target) : ∀ {i : Fin g.names.length}, g.At name i →
      ∃ j, g.At target j ∧ Relation.TransGen (fun i j => j ∈ edges rules i) i j := by
  have hstep : ∀ {name target : String} {i : Fin g.names.length}, g.At name i → g.CallsFirst name target →
      ∃ j, g.At target j ∧ j ∈ edges rules i := by
    intro name target i hi hcall
    obtain ⟨e, hlookup, he⟩ := hrules.lookup_of_at hi
    obtain ⟨e', hlookup', hleft⟩ := id hcall
    cases hlookup.symm.trans hlookup'
    obtain ⟨j, hj⟩ := exists_at_of_leftmost he hleft
    exact ⟨j, hj, (hrules.mem_edges_iff hi).2 ⟨target, hj, hcall⟩⟩
  induction h with
  | single hcall =>
    intro i hi
    obtain ⟨j, hj, hedge⟩ := hstep hi hcall
    exact ⟨j, hj, .single hedge⟩
  | tail _ hcall ih =>
    intro i hi
    obtain ⟨k, hk, hpath⟩ := ih hi
    obtain ⟨j, hj, hedge⟩ := hstep hk hcall
    exact ⟨j, hj, hpath.tail hedge⟩

/-- Where the check finds no rule, none reaches itself. -/
theorem ResolvedRules.acyclic_of_find? (hrules : g.ResolvedRules rules) {start : Node g.names.length}
    (h : LeftRecursion.find? matchesEmpty start rules = none) (name : String) :
    ¬Relation.TransGen g.CallsFirst name name := by
  intro hcycle
  obtain ⟨_, ⟨e, hlookup, -⟩, -⟩ := Relation.TransGen.head'_iff.1 hcycle
  obtain ⟨i, hi⟩ := exists_at_of_lookup hlookup
  obtain ⟨j, hj, hpath⟩ := hrules.transGen_edges hcycle hi
  obtain rfl := At.unique hi hj
  exact (LeftRecursion.wellFounded_of_find? h).transGen.irrefl.irrefl i (Relation.transGen_swap.1 hpath)

/-- A rule that the check finds reaches itself. -/
theorem ResolvedRules.cycle_of_find? (hrules : g.ResolvedRules rules) {start : Node g.names.length}
    {i : Fin g.names.length} (h : LeftRecursion.find? matchesEmpty start rules = some i) :
    Relation.TransGen g.CallsFirst (g.names.get i) (g.names.get i) := by
  have hcycle : Relation.TransGen (fun i j => j ∈ edges rules i) i i := LeftRecursion.transGen_of_find? h
  obtain ⟨k, -, hk⟩ := Relation.TransGen.tail'_iff.1 hcycle
  obtain ⟨name, hi⟩ := hrules.exists_at_of_mem_edges hk
  obtain ⟨target, hi', hpath⟩ := hrules.transGen_callsFirst hcycle hi
  rw [hi.get_eq]
  rwa [← hi'.get_eq, hi.get_eq] at hpath

end PatternLint.Grammar
