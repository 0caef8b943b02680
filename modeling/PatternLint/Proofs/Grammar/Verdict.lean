import PatternLint.Proofs.Grammar.Leftmost
/-!
# Which grammars can be made ready

`Grammar.leaves` lists the terminals and references of a grammar in the order in which they are resolved: those of the
start expression, of the rules as first defined and of the ignored regions, each from left to right. Main statement:
`Grammar.compile_verdict`. A grammar can be made ready exactly if all of them can be resolved and no rule reaches itself
through leftmost calls; otherwise the first that cannot be resolved decides, and if there is none, a rule that reaches
itself.
-/
namespace PatternLint

/-- A terminal or a reference, with the name under which the part of the grammar is reported that it stands in. -/
inductive Leaf where
  | terminal (part pattern : String)
  | reference (part target : String)
deriving DecidableEq, Repr

/-- The terminals and references of an expression, from left to right. -/
def Expr.leaves (part : String) : Expr String String → List Leaf
  | empty | never | literal _ | any => []
  | terminal pattern => [.terminal part pattern]
  | rule target => [.reference part target]
  | seq a b | choice a b => a.leaves part ++ b.leaves part
  | rounds e _ _ | ahead e | notAhead e => e.leaves part

namespace Grammar

section Leaves
variable (g : Grammar)

/-- The terminals and references of a grammar: of the start expression, of the rules as first defined, and of the
ignored regions. -/
def leaves : List Leaf :=
  g.start.leaves startName ++ (g.rules.flatMap (fun r => r.2.leaves r.1) ++ g.ignored.flatMap (Expr.leaves ignoredName))

/-- The pattern has a program after the assertion that the text starts, or the rule is defined and can be called. -/
def Resolves : Leaf → Prop
  | .terminal _ pattern => ∃ p, Compiles pattern p
  | .reference _ target => target ≠ startName ∧ ∃ e, (target, e) ∈ g.rules

/-- What is reported of a terminal or reference that cannot be resolved. -/
inductive Refuses : Leaf → CaptureError → Prop
  | terminal {part pattern : String} {fault : Regex.Fault} :
      Regex.compile {} (anchoredPattern pattern) = .error fault →
      Refuses (.terminal part pattern) (.terminal part pattern fault)
  | reference {part target : String} : (target = startName ∨ ∀ e, (target, e) ∉ g.rules) →
      Refuses (.reference part target) (.undefinedRule part target)

end Leaves

/-! ## Resolving -/

/-- The reason why a terminal or reference cannot be resolved. -/
def leafFault? (names : List String) : Leaf → Option CaptureError
  | .terminal part pattern => fault? (compileTerminal part pattern)
  | .reference part target => fault? (findRule names part target)

/-- The first terminal or reference that cannot be resolved decides. -/
theorem fault?_resolveIn (names : List String) (part : String) (e : Expr String String) :
    fault? (resolveIn names part e) = (e.leaves part).findSome? (leafFault? names) := by
  have hpair : ∀ {α β γ : Type} (x : Except CaptureError α) (y : Except CaptureError β) (f : α → β → γ),
      fault? (do let a ← x; let b ← y; pure (f a b)) = (fault? x).or (fault? y) := by
    intro α β γ x y f
    cases x <;> cases y <;> rfl
  unfold resolveIn
  induction e with
  | empty | never | literal _ | any => rfl
  | terminal pattern =>
    rw [Expr.resolve, fault?_map]
    cases h : fault? (compileTerminal part pattern) <;> simp [Expr.leaves, leafFault?, h]
  | rule target =>
    rw [Expr.resolve, fault?_map]
    cases h : fault? (findRule names part target) <;> simp [Expr.leaves, leafFault?, h]
  | seq a b iha ihb | choice a b iha ihb => rw [Expr.resolve, hpair, iha, ihb, Expr.leaves, List.findSome?_append]
  | rounds e min max ih =>
    rw [Expr.leaves, ← ih]
    exact fault?_map _ _
  | ahead e ih | notAhead e ih => rw [Expr.leaves, ← ih, Expr.resolve, fault?_map]

theorem findSome?_flatMap {α β γ : Type} (f : β → Option γ) (leaves : α → List β) (as : List α) :
    (as.flatMap leaves).findSome? f = as.findSome? fun a => (leaves a).findSome? f := by
  induction as with
  | nil => rfl
  | cons a as ih =>
    rw [List.flatMap_cons, List.findSome?_append, List.findSome?_cons, ih]
    cases (leaves a).findSome? f <;> rfl

variable {g : Grammar}

theorem leafFault?_eq_some {leaf : Leaf} {err : CaptureError} :
    leafFault? g.names leaf = some err ↔ g.Refuses leaf err := by
  cases leaf with
  | terminal part pattern =>
    rw [leafFault?, fault?_eq_some, compileTerminal]
    constructor
    · intro h
      cases hc : Regex.compile {} (anchoredPattern pattern) with
      | error fault =>
        rw [hc] at h
        cases h
        exact .terminal hc
      | ok p =>
        rw [hc] at h
        cases h
    · rintro ⟨hc⟩
      rw [hc]
      rfl
  | reference part target =>
    rw [leafFault?, fault?_eq_some, findRule]
    constructor
    · intro h
      split at h
      · split at h
        · next hstart =>
          cases h
          exact .reference (.inl hstart)
        · cases h
      · next hfind =>
        cases h
        refine .reference (.inr fun e he => List.finIdxOf?_eq_none_iff.1 hfind ?_)
        exact List.mem_map.2 ⟨_, he, rfl⟩
    · rintro (_ | hmissing)
      split
      · next i hfind =>
        rcases hmissing with hstart | hmissing
        · rw [if_pos hstart]
        · obtain ⟨e, hget, -⟩ := lookup_of_finIdxOf? hfind
          exact absurd (List.mem_of_getElem? hget) (hmissing e)
      · rfl

theorem leafFault?_eq_none {leaf : Leaf} : leafFault? g.names leaf = none ↔ g.Resolves leaf := by
  rw [Option.eq_none_iff_forall_ne_some]
  simp only [ne_eq, leafFault?_eq_some]
  cases leaf with
  | terminal part pattern =>
    constructor
    · intro h
      unfold Resolves Compiles
      cases hc : Regex.compile {} (anchoredPattern pattern) with
      | error fault => exact absurd (.terminal hc) (h _)
      | ok p => exact ⟨p, hc⟩
    · rintro ⟨p, hp⟩ err ⟨hc⟩
      cases hp.symm.trans hc
  | reference part target =>
    constructor
    · intro h
      refine ⟨fun hstart => h _ (.reference (.inl hstart)), ?_⟩
      by_contra hmissing
      exact h _ (.reference (.inr (not_exists.1 hmissing)))
    · rintro ⟨hstart, e, he⟩ err (_ | hmissing)
      rcases hmissing with rfl | hmissing
      · exact hstart rfl
      · exact hmissing e he

/-! ## The three stages -/

/-- The rules with their patterns and names replaced. -/
def resolveRules (g : Grammar) : Except CaptureError (Vector (Node g.names.length) g.names.length) :=
  (Vector.mk g.rules.toArray (by simp [names])).mapM fun r => resolveIn g.names r.1 r.2

/-- What is left to do once everything is resolved. -/
def finish (g : Grammar) (start : Node g.names.length) (rules : Vector (Node g.names.length) g.names.length)
    (ignored : List (Node g.names.length)) : Except CaptureError Matcher :=
  match LeftRecursion.find? matchesEmpty start rules with
  | some i => .error (.leftRecursion (g.names.get i))
  | none => .ok ⟨g.names.length, start, rules, ignored, g.skipBlanks⟩

theorem compile_eq (g : Grammar) : g.compile = (do
    let start ← resolveIn g.names startName g.start
    let rules ← g.resolveRules
    let ignored ← g.ignored.mapM (resolveIn g.names ignoredName)
    g.finish start rules ignored) := by
  unfold compile
  refine bind_congr fun start => bind_congr fun rules => bind_congr fun ignored => ?_
  unfold finish
  cases LeftRecursion.find? matchesEmpty start rules <;> rfl

theorem findSome?_leaves (g : Grammar) : g.leaves.findSome? (leafFault? g.names) =
    (fault? (resolveIn g.names startName g.start)).or ((fault? g.resolveRules).or
      (fault? (g.ignored.mapM (resolveIn g.names ignoredName)))) := by
  rw [leaves, List.findSome?_append, List.findSome?_append, findSome?_flatMap, findSome?_flatMap, resolveRules,
    fault?_vector_mapM, fault?_mapM]
  simp only [fault?_resolveIn]
  rfl

/-- The first terminal or reference that cannot be resolved decides. -/
theorem compile_of_refused {err : CaptureError} (h : g.leaves.findSome? (leafFault? g.names) = some err) :
    g.compile = .error err := by
  rw [findSome?_leaves] at h
  rw [compile_eq]
  cases hstart : resolveIn g.names startName g.start with
  | error e => rw [hstart] at h; cases h; rfl
  | ok start =>
    cases hrules : g.resolveRules with
    | error e => rw [hstart, hrules] at h; cases h; rfl
    | ok rules =>
      cases hignored : g.ignored.mapM (resolveIn g.names ignoredName) with
      | error e => rw [hstart, hrules, hignored] at h; cases h; rfl
      | ok ignored => rw [hstart, hrules, hignored] at h; cases h

/-- If all of them can be resolved, the check for left recursion decides. -/
theorem compile_of_resolves (h : ∀ leaf ∈ g.leaves, g.Resolves leaf) :
    ∃ start rules ignored, g.ResolvedRules rules ∧ g.compile = g.finish start rules ignored := by
  have hnone : g.leaves.findSome? (leafFault? g.names) = none :=
    List.findSome?_eq_none_iff.2 fun leaf hleaf => leafFault?_eq_none.2 (h leaf hleaf)
  rw [findSome?_leaves, Option.or_eq_none_iff, Option.or_eq_none_iff] at hnone
  obtain ⟨hstart, hrules, hignored⟩ := hnone
  obtain ⟨start, hstart⟩ := fault?_eq_none.1 hstart
  obtain ⟨rules, hrules⟩ := fault?_eq_none.1 hrules
  obtain ⟨ignored, hignored⟩ := fault?_eq_none.1 hignored
  refine ⟨start, rules, ignored, fun _ _ _ hi => resolved_of_mapM hrules hi, ?_⟩
  rw [compile_eq, hstart, hrules, hignored]
  rfl

/-- Each part of a grammar that is ready is that part as written, with every reference at the first definition of its
name. -/
theorem alike_of_part {m : Matcher} (h : g.compile = .ok m) {e : Expr String String} {node : Node m.size}
    (he : g.Part m e node) : e.Alike Compiles
      (fun name i => ∃ d, g.rules[i.val]? = some (name, d) ∧ g.rules.lookup name = some d) node := by
  obtain ⟨start, rules, ignored, rfl, hstart, hrules, hignored, -⟩ := compile_ok h
  have himp : ∀ {e : Expr String String} {node}, Resolved g.names e node → e.Alike Compiles
      (fun name i => ∃ d, g.rules[i.val]? = some (name, d) ∧ g.rules.lookup name = some d) node :=
    fun he => he.imp (fun _ _ => id) fun _ _ => lookup_of_finIdxOf?
  cases he with
  | start => exact himp hstart
  | rule hi => exact himp (hrules _ _ _ hi)
  | ignored hk hk' =>
    obtain ⟨hlt, rfl⟩ := List.getElem?_eq_some_iff.1 hk
    obtain ⟨hlt', rfl⟩ := List.getElem?_eq_some_iff.1 hk'
    exact himp (hignored.get hlt hlt')

/-- The terminals and references come first, and the leftmost calls decide about the rest. -/
theorem compile_cases (g : Grammar) :
    (∃ before leaf after err, g.leaves = before ++ leaf :: after ∧ (∀ l ∈ before, g.Resolves l) ∧ g.Refuses leaf err ∧
      g.compile = .error err) ∨
    (∀ leaf ∈ g.leaves, g.Resolves leaf) ∧
      ((∃ name, Relation.TransGen g.CallsFirst name name ∧ g.compile = .error (.leftRecursion name)) ∨
        (∀ name, ¬Relation.TransGen g.CallsFirst name name) ∧ ∃ m, g.compile = .ok m) := by
  cases hleaves : g.leaves.findSome? (leafFault? g.names) with
  | some err =>
    obtain ⟨before, leaf, after, heq, hleaf, hbefore⟩ := List.findSome?_eq_some_iff.1 hleaves
    exact .inl ⟨before, leaf, after, err, heq, fun l hl => leafFault?_eq_none.1 (hbefore l hl),
      leafFault?_eq_some.1 hleaf, compile_of_refused hleaves⟩
  | none =>
    have hall : ∀ leaf ∈ g.leaves, g.Resolves leaf :=
      fun leaf hleaf => leafFault?_eq_none.1 (List.findSome?_eq_none_iff.1 hleaves leaf hleaf)
    obtain ⟨start, rules, ignored, hrules, hcompile⟩ := compile_of_resolves hall
    rw [finish] at hcompile
    cases hfind : LeftRecursion.find? matchesEmpty start rules with
    | some i =>
      rw [hfind] at hcompile
      exact .inr ⟨hall, .inl ⟨_, hrules.cycle_of_find? hfind, hcompile⟩⟩
    | none =>
      rw [hfind] at hcompile
      exact .inr ⟨hall, .inr ⟨hrules.acyclic_of_find? hfind, _, hcompile⟩⟩

theorem not_resolves_of_refuses {leaf : Leaf} {err : CaptureError} (h : g.Refuses leaf err) : ¬g.Resolves leaf := by
  intro hres
  cases (leafFault?_eq_some.2 h).symm.trans (leafFault?_eq_none.2 hres)

theorem compile_ok_iff (g : Grammar) : (∃ m, g.compile = .ok m) ↔
    (∀ leaf ∈ g.leaves, g.Resolves leaf) ∧ ∀ name, ¬Relation.TransGen g.CallsFirst name name := by
  rcases compile_cases g with ⟨before, leaf, after, err, heq, -, hrefused, herror⟩ |
    ⟨hall, ⟨name, hcycle, herror⟩ | ⟨hacyclic, hok⟩⟩
  · simp only [herror, reduceCtorEq, exists_false, false_iff]
    rintro ⟨hall, -⟩
    exact not_resolves_of_refuses hrefused (hall leaf (by simp [heq]))
  · simp only [herror, reduceCtorEq, exists_false, false_iff]
    exact fun h => h.2 name hcycle
  · exact ⟨fun _ => ⟨hall, hacyclic⟩, fun _ => hok⟩

/-- A grammar can be made ready exactly if all its terminals and references can be resolved and no rule reaches itself
through leftmost calls. If it cannot, the error is that of the first of them that cannot be resolved, and else names a
rule that reaches itself. If it can, every rule has its position, and every reference is the position of a rule of
that name. -/
theorem compile_verdict (g : Grammar) :
    ((∃ m, g.compile = .ok m) ↔
      (∀ leaf ∈ g.leaves, g.Resolves leaf) ∧ ∀ name, ¬Relation.TransGen g.CallsFirst name name) ∧
    (∀ err, g.compile = .error err →
      (∃ before leaf after, g.leaves = before ++ leaf :: after ∧ (∀ l ∈ before, g.Resolves l) ∧ g.Refuses leaf err) ∨
      ((∀ leaf ∈ g.leaves, g.Resolves leaf) ∧
        ∃ name, Relation.TransGen g.CallsFirst name name ∧ err = .leftRecursion name)) ∧
    ∀ m, g.compile = .ok m → m.size = g.rules.length ∧ m.ignored.length = g.ignored.length ∧
      ∀ e node, g.Part m e node → e.Alike Compiles
        (fun name i => ∃ d, g.rules[i.val]? = some (name, d) ∧ g.rules.lookup name = some d) node := by
  refine ⟨compile_ok_iff g, fun err herr => ?_, fun m hm => ?_⟩
  · rcases compile_cases g with ⟨before, leaf, after, err', heq, hbefore, hrefused, herror⟩ |
      ⟨hall, ⟨name, hcycle, herror⟩ | ⟨-, m, hok⟩⟩
    · cases herr.symm.trans herror
      exact .inl ⟨before, leaf, after, heq, hbefore, hrefused⟩
    · cases herr.symm.trans herror
      exact .inr ⟨hall, name, hcycle, rfl⟩
    · cases herr.symm.trans hok
  · have hpart := fun e node => @alike_of_part g m hm e node
    obtain ⟨start, rules, ignored, rfl, -, -, hignored, -⟩ := compile_ok hm
    exact ⟨List.length_map _, hignored.length_eq.symm, hpart⟩

/-- A rule that calls itself after one that can succeed without consuming, as a pattern two rules further on shows. -/
def hiddenCycle : Grammar where
  start := .literal ['z']
  rules := [("a", .seq (.rule "b") (.rule "a")), ("b", .rule "c"), ("c", .terminal "x*")]

theorem hiddenCycle_verdict : hiddenCycle.compile = .error (.leftRecursion "a") ∧
    Relation.TransGen hiddenCycle.CallsFirst "a" "a" := by
  have h : hiddenCycle.compile = .error (.leftRecursion "a") := fault?_eq_some.1 (by decide +kernel)
  refine ⟨h, ?_⟩
  rcases (compile_verdict hiddenCycle).2.1 _ h with ⟨_, leaf, _, _, _, hrefused⟩ | ⟨_, name, hcycle, heq⟩
  · cases hrefused
  · cases heq
    exact hcycle

end Grammar

end PatternLint
