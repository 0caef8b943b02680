import PatternLint.Proofs.Grammar.Compile
import PatternLint.Proofs.Grammar.Forward
import PatternLint.Proofs.Grammar.Meaning
/-!
# A grammar made ready does what it means

As long as no call is cut off, trying an expression of a grammar made ready comes to exactly what the grammar as
written derives (`Grammar.parse_iff_derives`). The operators are gone through once, in `Expr.Alike.agrees`, for any way
of skipping and of calling rules; from there it goes by the levels of nested calls, first for the regions, which are
tried without skipping, and then for everything else.
-/
namespace PatternLint

/-- Unless it was cut off, the attempt at `c` comes to what is derived. -/
def Attempt.Agrees (s : Meaning) (lead : Nat → Nat → Prop) (e : Expr String String) (c : Cursor) (a : Attempt) : Prop :=
  a.cutOff = false → Derives s lead e c.offset (a.result.map (·.offset))

section Operators
variable {s : Meaning} {L : Nat → Nat → Prop}

theorem Repeats.agrees {p : Cursor → Attempt} {e : Expr String String} {min : Nat} {max : Option Nat}
    (hp : ∀ c : Cursor, c.In s.text → (p c).Agrees s L e c) (hf : ∀ c, (p c).Forward c) {count : Nat} {c : Cursor}
    {a : Attempt} (h : Repeats p min max count c a) :
    c.In s.text → a.Agrees s L (.rounds e (min - count) (max.map (· - count))) c := by
  have hmax : ∀ {count : Nat}, max.any (· ≤ count) = false → max.map (· - count) ≠ some 0 := by
    intro count hm h0
    obtain ⟨k, rfl, hk⟩ := Option.map_eq_some_iff.1 h0
    simp only [Option.any_some, decide_eq_false_iff_not] at hm
    omega
  have hend : ∀ (count : Nat) (c : Cursor), (if min ≤ count then some c else none).map (·.offset) =
      if min - count = 0 then some c.offset else none := by
    intro count c
    by_cases hm : min ≤ count
    · simp [hm, Nat.sub_eq_zero_of_le hm]
    · simp [hm, Nat.sub_ne_zero_of_lt (Nat.lt_of_not_le hm)]
  induction h with
  | @full count c hm =>
    intro _ _
    obtain ⟨k, rfl, hk⟩ : ∃ k, max = some k ∧ k ≤ count := by simpa [Option.any_eq_true] using hm
    rw [hend, Option.map_some, Nat.sub_eq_zero_of_le hk]
    exact .rounds_full
  | @stop count c cut hm hpc =>
    intro hc hcut
    rw [hend]
    have := hp c hc (by rw [hpc]; exact hcut)
    rw [hpc] at this
    exact .rounds_stop (hmax hm) this
  | @idle count c d cut hm hpc ho =>
    intro hc hcut
    have := hp c hc (by rw [hpc]; exact hcut)
    rw [hpc, Option.map_some, ho] at this
    exact .rounds_idle (hmax hm) this
  | @more count c d cut a hm hpc ho _ ih =>
    intro hc hcut
    rw [Attempt.after_cutOff, Bool.or_eq_false_iff] at hcut
    have hd := hp c hc (by rw [hpc]; exact hcut.1)
    rw [hpc, Option.map_some] at hd
    have hr := ih (hc.reaches (hf c d (by rw [hpc]))) hcut.2
    refine .rounds_more (hmax hm) hd ho ?_
    -- the loop counts up where the expression counts its bounds down
    rw [Option.map_map, Nat.sub_sub]
    exact hr

/-- An expression agrees with the one it stands for if its terminals, its skipping and its calls do. -/
theorem Expr.Alike.agrees {τ ρ : Type} {T : String → τ → Prop} {R : String → ρ → Prop}
    {run : τ → Cursor → Option Cursor} {lead : Cursor → Cursor × Bool} {call : ρ → Cursor → Attempt}
    (hrun : ∀ t t' (c : Cursor), T t t' →
      (run t' c).map (·.offset) = (s.terminal t c.rest).map (c.offset + ·))
    (hforward : ∀ (e : Expr τ ρ) (c : Cursor), (e.parse run lead call c).Forward c)
    (hreach : ∀ c : Cursor, c.Reaches (lead c).1)
    (hlead : ∀ c : Cursor, c.In s.text → (lead c).2 = false → L c.offset (lead c).1.offset)
    (hcall : ∀ r r' (c : Cursor), R r r' → c.In s.text → (call r' c).Agrees s L (.rule r) c)
    {e : Expr String String} {e' : Expr τ ρ} (h : e.Alike T R e') :
    ∀ c : Cursor, c.In s.text → (e'.parse run lead call c).Agrees s L e c := by
  induction h with
  | empty => intro c _ _; exact .empty
  | never => intro c _ _; exact .never
  | literal word =>
    intro c hc hcut
    have : Derives s L (.literal word) c.offset _ := .literal (hlead c hc hcut)
    rwa [(hc.reaches (hreach c)).textFrom_eq, ← Cursor.strip?_offset] at this
  | @terminal t t' ht =>
    intro c hc hcut
    have : Derives s L (.terminal t) c.offset _ := .terminal (hlead c hc hcut)
    rwa [(hc.reaches (hreach c)).textFrom_eq, ← hrun t t' _ ht] at this
  | any =>
    intro c hc hcut
    have : Derives s L .any c.offset _ := .any (hlead c hc hcut)
    rwa [(hc.reaches (hreach c)).textFrom_eq, ← Cursor.next?_offset] at this
  | @seq a b a' b' _ _ iha ihb =>
    intro c hc
    rcases parse_seq a' b' c with ⟨hnone, he⟩ | ⟨mid, hmid, he⟩
    · intro hcut
      rw [he] at hcut ⊢
      have ha := iha c hc hcut
      rw [hnone] at ha ⊢
      exact .seq_fail ha
    · intro hcut
      rw [he] at hcut ⊢
      obtain ⟨hcut, hcut'⟩ := Bool.or_eq_false_iff.1 hcut
      have ha := iha c hc hcut
      rw [hmid] at ha
      exact .seq ha (ihb mid (hc.reaches (hforward a' c mid hmid)) hcut')
  | @choice a b a' b' _ _ iha ihb =>
    intro c hc
    rcases parse_choice a' b' c with ⟨mid, hmid, he⟩ | ⟨hnone, he⟩
    · intro hcut
      rw [he] at hcut ⊢
      have ha := iha c hc hcut
      rw [hmid] at ha ⊢
      exact .choice_first ha
    · intro hcut
      rw [he] at hcut ⊢
      obtain ⟨hcut, hcut'⟩ := Bool.or_eq_false_iff.1 hcut
      have ha := iha c hc hcut
      rw [hnone] at ha
      exact .choice_second ha (ihb c hc hcut')
  | @rounds e e' min max _ ih =>
    intro c hc
    have := (parse_rounds (hforward e') min max c).agrees ih (hforward e') hc
    simpa using this
  | @ahead e e' _ ih =>
    intro c hc hcut
    have := Derives.ahead (ih c hc hcut)
    simpa [parse, Function.comp_def] using this
  | @notAhead e e' _ ih =>
    intro c hc hcut
    have := Derives.notAhead (ih c hc hcut)
    rw [Option.isSome_map] at this
    simp only [parse, apply_ite (Option.map _), Option.map_none, Option.map_some]
    exact this
  | @rule r r' hr => intro c hc; exact hcall r r' c hr hc

end Operators

/-! ## Terminals and names -/

/-- How many bytes a pattern matches at the beginning of a text. -/
def Grammar.terminalLength (pattern : String) (rest : List Char) : Option Nat :=
  match Regex.compile {} (anchoredPattern pattern) with
  | .ok p => (p.find? (.start rest)).map (·.stop.offset)
  | .error _ => none

theorem Matcher.runTerminal_offset {pattern : String} {p : Regex.Program} (h : Grammar.Compiles pattern p)
    (c : Cursor) : (runTerminal p c).map (·.offset) = (Grammar.terminalLength pattern c.rest).map (c.offset + ·) := by
  unfold Grammar.Compiles at h
  simp only [Grammar.terminalLength, h, runTerminal_eq, Option.map_map]
  rfl

theorem Grammar.lookup_of_getElem? {name : String} {e : Expr String String}
    (rules : List (String × Expr String String)) : ∀ {i : Nat}, rules[i]? = some (name, e) →
      (∀ j < i, ∀ d, rules[j]? ≠ some (name, d)) → rules.lookup name = some e := by
  induction rules with
  | nil => intro i h; cases h
  | cons r rules ih =>
    intro i h hfirst
    cases i with
    | zero =>
      cases h
      simp
    | succ i =>
      have hne : name ≠ r.1 := by
        rintro rfl
        exact hfirst 0 (Nat.zero_lt_succ i) r.2 rfl
      rw [List.lookup_cons, beq_false_of_ne hne]
      exact ih h fun j hj => hfirst (j + 1) (Nat.succ_lt_succ hj)

/-- A name is resolved to the position of what it refers to. -/
theorem Grammar.lookup_of_finIdxOf? {rules : List (String × Expr String String)} {name : String}
    {i : Fin (rules.map (·.1)).length} (h : (rules.map (·.1)).finIdxOf? name = some i) :
    ∃ e, rules[i.val]? = some (name, e) ∧ rules.lookup name = some e := by
  obtain ⟨hi, hfirst⟩ := List.finIdxOf?_eq_some_iff.1 h
  have hlt : i.val < rules.length := by simpa using i.isLt
  have hget : rules[i.val]? = some (name, rules[i.val].2) := by
    rw [List.getElem?_eq_getElem hlt]
    simp only [Fin.getElem_fin, List.getElem_map] at hi
    rw [← hi]
  refine ⟨_, hget, lookup_of_getElem? rules hget fun j hj d hd => ?_⟩
  obtain ⟨hj', hd⟩ := List.getElem?_eq_some_iff.1 hd
  refine hfirst ⟨j, by simpa using hj'⟩ hj ?_
  simp [hd]

/-! ## Matchers -/

namespace Matcher

/-- The matcher stands for a grammar with the given meaning, where `R` relates names to positions. -/
structure Stands (m : Matcher) (R : String → Fin m.size → Prop) (s : Meaning) : Prop where
  terminal : s.terminal = Grammar.terminalLength
  rule : ∀ name i, R name i → ∃ e, s.definition name = some e ∧ e.Alike Grammar.Compiles R (m.rules.get i)
  ignored : List.Forall₂ (Expr.Alike Grammar.Compiles R) s.ignored m.ignored
  skipBlanks : s.skipBlanks = m.skipBlanks

namespace Stands

variable {m : Matcher} {R : String → Fin m.size → Prop} {s : Meaning}

/-- By induction on the levels: a call agrees one level further down. -/
theorem parse_agrees (h : m.Stands R s) {L : Nat → Nat → Prop} {lead : Cursor → Cursor × Bool}
    (hreach : ∀ c : Cursor, c.Reaches (lead c).1)
    (hlead : ∀ c : Cursor, c.In s.text → (lead c).2 = false → L c.offset (lead c).1.offset) (levels : Nat) :
    ∀ {e : Expr String String} {node : Node m.size}, e.Alike Grammar.Compiles R node →
      ∀ c : Cursor, c.In s.text → (m.parse lead levels node c).Agrees s L e c := by
  have hrun : ∀ t p (c : Cursor), Grammar.Compiles t p →
      (runTerminal p c).map (·.offset) = (s.terminal t c.rest).map (c.offset + ·) := by
    intro t p c ht
    rw [h.terminal, runTerminal_offset ht]
  induction levels with
  | zero =>
    intro e node he
    refine he.agrees hrun (m.parse_forward hreach 0) hreach hlead fun _ _ _ _ _ hcut => ?_
    -- a call is cut off here, so that nothing has to agree
    cases hcut
  | succ levels ih =>
    intro e node he
    refine he.agrees hrun (m.parse_forward hreach (levels + 1)) hreach hlead fun name i c hi hc hcut => ?_
    obtain ⟨d, hd, halike⟩ := h.rule name i hi
    exact .rule hd (ih halike c hc hcut)

theorem parseBare_agrees (h : m.Stands R s) (levels : Nat) {e : Expr String String} {node : Node m.size}
    (he : e.Alike Grammar.Compiles R node) (c : Cursor)
    (hc : c.In s.text) : (m.parseBare levels node c).Agrees s Eq e c :=
  h.parse_agrees (fun c => .refl c) (fun _ _ _ => rfl) levels he c hc

theorem foldl_skipRegion (h : m.Stands R s) (levels : Nat) {es : List (Expr String String)}
    {nodes : List (Node m.size)} (hes : List.Forall₂ (Expr.Alike Grammar.Compiles R) es nodes) :
    ∀ x : Cursor × Bool, x.1.In s.text → (nodes.foldl (m.skipRegion levels) x).2 = false →
      x.2 = false ∧ Regions s es x.1.offset (nodes.foldl (m.skipRegion levels) x).1.offset := by
  induction hes with
  | nil => intro x _ hx; exact ⟨hx, .nil⟩
  | @cons e node es nodes he _ ih =>
    intro x hx hcut
    have ha := h.parseBare_agrees levels he x.1 hx
    rw [List.foldl_cons] at hcut ⊢
    have hin : (m.skipRegion levels x node).1.In s.text :=
      hx.reaches (m.foldl_skipRegion_reaches levels [node] x)
    obtain ⟨h2, hr⟩ := ih _ hin hcut
    simp only [skipRegion, Bool.or_eq_false_iff] at h2
    have ha := ha h2.2
    refine ⟨h2.1, ?_⟩
    cases hres : (m.parseBare levels node x.1).result with
    | none =>
      simp only [hres, Option.map_none] at ha
      simp only [skipRegion, hres, Option.getD_none] at hr ⊢
      exact .miss ha hr
    | some d =>
      simp only [hres, Option.map_some] at ha
      simp only [skipRegion, hres, Option.getD_some] at hr ⊢
      exact .hit ha hr

theorem skipOnce_regions (h : m.Stands R s) (levels : Nat) {c : Cursor} (hc : c.In s.text)
    (hcut : (m.skipOnce levels c).2 = false) :
    Regions s s.ignored (s.blanksEnd c.offset) (m.skipOnce levels c).1.offset := by
  have hblank : (if m.skipBlanks then c.dropWhile isBlank else c).In s.text ∧
      (if m.skipBlanks then c.dropWhile isBlank else c).offset = s.blanksEnd c.offset := by
    rw [Meaning.blanksEnd, h.skipBlanks, hc.textFrom_eq]
    split
    · exact ⟨hc.reaches (c.dropWhile_reaches isBlank), c.dropWhile_offset isBlank⟩
    · exact ⟨hc, rfl⟩
  rw [← hblank.2]
  exact (h.foldl_skipRegion levels h.ignored (_, false) hblank.1 hcut).2

theorem skip_skips (h : m.Stands R s) (levels : Nat) {c : Cursor} (hc : c.In s.text)
    (hcut : (m.skip levels c).2 = false) : Skips s c.offset (m.skip levels c).1.offset := by
  have hs := m.skip_skipsTo levels c
  generalize m.skip levels c = x at hs hcut
  induction hs with
  | @done c ho =>
    have hr := h.skipOnce_regions levels hc hcut
    rw [ho] at hr ⊢
    exact .done hr
  | @more c d cut ho _ ih =>
    simp only [Bool.or_eq_false_iff] at hcut
    exact .more (h.skipOnce_regions levels hc hcut.1) ho
      (ih (hc.reaches (m.skipOnce_reaches levels c)) hcut.2)

theorem lead_lead (h : m.Stands R s) (skipping : Bool) (limit : Nat) {c : Cursor} (hc : c.In s.text)
    (hcut : (m.lead skipping limit c).2 = false) : s.Lead skipping c.offset (m.lead skipping limit c).1.offset := by
  cases skipping with
  | false => rfl
  | true => exact h.skip_skips limit hc hcut

end Stands

end Matcher

/-! ## Grammars -/

namespace Grammar

/-- An expression of a grammar and what it was made into: the start expression, a rule or an ignored region. -/
inductive Part (g : Grammar) (m : Matcher) : Expr String String → Node m.size → Prop
  | start : Part g m g.start m.start
  | rule {i : Fin m.size} {name : String} {e : Expr String String} : g.rules[i.val]? = some (name, e) →
      Part g m e (m.rules.get i)
  | ignored {k : Nat} {e : Expr String String} {node : Node m.size} : g.ignored[k]? = some e →
      m.ignored[k]? = some node → Part g m e node

theorem compile_stands {start : Expr String String} {steps : List Step} {m : Matcher}
    (h : (build start steps).compile = .ok m) (text : List Char) :
    ∃ R : String → Fin m.size → Prop, m.Stands R (Meaning.ofSteps steps terminalLength text) ∧
      ∀ e node, (build start steps).Part m e node → e.Alike Compiles R node := by
  obtain ⟨start', rules, ignored, rfl, hstart, hrules, hignored, -⟩ := compile_ok h
  refine ⟨fun name i => ((build start steps).rules.map (·.1)).finIdxOf? name = some i,
    ⟨rfl, fun name i hi => ?_, ?_, ?_⟩, fun e node he => ?_⟩
  · obtain ⟨e, hget, hlook⟩ := lookup_of_finIdxOf? hi
    rw [build_lookup] at hlook
    exact ⟨e, hlook, hrules i name e hget⟩
  · rw [build_ignored] at hignored
    exact hignored
  · exact (build_skipBlanks start steps).symm
  · cases he with
    | start => exact hstart
    | rule hi => exact hrules _ _ _ hi
    | ignored hk hk' =>
      obtain ⟨hlt, rfl⟩ := List.getElem?_eq_some_iff.1 hk
      obtain ⟨hlt', rfl⟩ := List.getElem?_eq_some_iff.1 hk'
      exact hignored.get hlt hlt'

/-- For every grammar that can be made ready, each of its expressions, each place of a text, with and without skipping,
and however many levels are left: unless it is cut off, an attempt succeeds and ends at `q` exactly where the grammar
as written derives that, and fails exactly where it derives failure. -/
theorem parse_iff_derives (start : Expr String String) (steps : List Step) (m : Matcher)
    (hm : (build start steps).compile = .ok m) (e : Expr String String) (node : Node m.size)
    (he : (build start steps).Part m e node) (text : List Char) (c : Cursor) (hc : c.In text) (skipping : Bool)
    (limit levels : Nat) (hcut : (m.parse (m.lead skipping limit) levels node c).cutOff = false) :
    let s := Meaning.ofSteps steps terminalLength text
    let result := (m.parse (m.lead skipping limit) levels node c).result
    (∀ q, result.map (·.offset) = some q ↔ Derives s (s.Lead skipping) e c.offset (some q)) ∧
      (result = none ↔ Derives s (s.Lead skipping) e c.offset none) := by
  intro s result
  obtain ⟨R, hR, hpart⟩ := compile_stands hm text
  have hd : Derives s (s.Lead skipping) e c.offset (result.map (·.offset)) :=
    hR.parse_agrees (m.lead_reaches skipping limit) (fun c hc hcut => hR.lead_lead skipping limit hc hcut) levels
      (hpart e node he) c hc hcut
  have hlead : ∀ p q q', s.Lead skipping p q → s.Lead skipping p q' → q = q' := fun _ _ _ h h' => h.unique h'
  have hiff : ∀ r, result.map (·.offset) = r ↔ Derives s (s.Lead skipping) e c.offset r :=
    fun r => ⟨fun h => h ▸ hd, fun h => hd.unique hlead h⟩
  exact ⟨fun q => hiff (some q), Option.map_eq_none_iff.symm.trans (hiff none)⟩

/-- Blocks in brackets, defined twice, with blanks and marked characters skipped. -/
def brackets : List Step :=
  [.define "block" .never, .ignore (.seq (.literal ['#']) .any), .nested "block" "(" ")", .skippingBlanks true]

/-- The latest definition holds, and a marked bracket closes nothing. -/
theorem parse_iff_derives_brackets : ∃ m, (build (.rule "block") brackets).compile = .ok m ∧
    (m.parse (m.lead true 512) 512 m.start (.start " (a#)(b) )".toList)).cutOff = false ∧
    let s := Meaning.ofSteps brackets terminalLength " (a#)(b) )".toList
    Derives s (s.Lead true) (.rule "block") 0 (some 10) := by
  have h : (build (.rule "block") brackets).compile.toOption.map (fun m =>
      ((m.parse (m.lead true 512) 512 m.start (.start " (a#)(b) )".toList)).cutOff,
        (m.parse (m.lead true 512) 512 m.start (.start " (a#)(b) )".toList)).result.map (·.offset))) =
      some (false, some 10) := by decide +kernel
  obtain ⟨m, hm, hr⟩ := toOption_map_ok h
  obtain ⟨hcut, hres⟩ := Prod.mk.inj hr
  refine ⟨m, hm, hcut, ?_⟩
  exact ((parse_iff_derives _ _ m hm _ m.start .start _ _ (Cursor.start_in _) true 512 512 hcut).1 10).1 hres

end Grammar

end PatternLint
