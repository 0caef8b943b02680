import Mathlib.Data.Finset.Prod
import Mathlib.Order.WellFounded
import PatternLint.Proofs.Grammar.Calls
import PatternLint.Proofs.Grammar.LeftRecursion
import PatternLint.Proofs.Grammar.Rounds
import PatternLint.Proofs.Regex.Empty
/-!
# No rule is entered again where it is active

In a grammar that was found free of left recursion no rule is entered at an offset where it is already active, and the
stacks of active rules are no higher than there are pairs of a rule and an offset. This holds as far as the check judges
terminals rightly: it takes a terminal for one that consumes unless it matches the empty text. Main statement:
`Grammar.compile_callStacks_nodup`. Only a terminal that asserts the start of a word can be misjudged
(`Matcher.judgesEmpty_of_wantsWord`): `\b` matches without consuming before a word and does not match the empty text, and
`Grammar.wordLoop_reenters` is a grammar that is made ready and calls itself there until it is cut off.
-/
namespace PatternLint

namespace Expr

variable {τ ρ : Type}

/-- The terminals of an expression. -/
def terminals : Expr τ ρ → List τ
  | terminal t => [t]
  | empty | never | literal _ | any | rule _ => []
  | seq a b | choice a b => a.terminals ++ b.terminals
  | rounds e _ _ | ahead e | notAhead e => e.terminals

/-! ## Nullable expressions and leftmost calls -/

/-- Nothing goes back in the text, and the rules that succeed without consuming are taken for nullable. -/
structure Judged (run : τ → Cursor → Option Cursor) (lead : Cursor → Cursor × Bool) (call : ρ → Cursor → Attempt)
    (onRule : ρ → Bool) (text : List Char) : Prop where
  run_reaches : ∀ t c d, run t c = some d → Cursor.Reaches c d
  lead_reaches : ∀ c : Cursor, c.Reaches (lead c).1
  call_forward : ∀ r c, (call r c).Forward c
  call_nullable : ∀ r (c d : Cursor), c.In text → (call r c).result = some d → d.offset = c.offset → onRule r = true

/-- A terminal that matches somewhere in the text without consuming is taken for nullable. -/
def JudgedTerminal (run : τ → Cursor → Option Cursor) (onTerminal : τ → Bool) (text : List Char) (t : τ) : Prop :=
  ∀ c d : Cursor, c.In text → run t c = some d → d.offset = c.offset → onTerminal t = true

namespace Judged

variable {run : τ → Cursor → Option Cursor} {lead : Cursor → Cursor × Bool} {call : ρ → Cursor → Attempt}
  {onTerminal : τ → Bool} {onRule : ρ → Bool} {text : List Char} (h : Judged run lead call onRule text)
include h

theorem forward (e : Expr τ ρ) (c : Cursor) : (e.parse run lead call c).Forward c :=
  e.parse_forward h.run_reaches h.lead_reaches h.call_forward c

/-- An expression that succeeds without consuming is nullable. -/
theorem nullable (e : Expr τ ρ) (hrun : ∀ t ∈ e.terminals, JudgedTerminal run onTerminal text t) :
    ∀ c d : Cursor, c.In text → (e.parse run lead call c).result = some d → d.offset = c.offset →
      e.nullable onTerminal onRule = true := by
  induction e with
  | empty | ahead _ _ | notAhead _ _ => intro c d _ _ _; rfl
  | never => intro c d _ hd; cases hd
  | literal word =>
    intro c d _ hd ho
    have hlead := (h.lead_reaches c).le
    have hword := Cursor.strip?_offset word (lead c).1
    simp only [parse] at hd
    rw [hd, Option.map_some] at hword
    split at hword
    · have hword := Option.some.inj hword
      have hempty : word = [] := byteLength_eq_zero.1 (by omega)
      rw [hempty]
      rfl
    · cases hword
  | terminal t =>
    intro c d hc hd ho
    have hlead := (h.lead_reaches c).le
    have hd' := (h.run_reaches t _ d hd).le
    exact hrun t (List.mem_singleton.2 rfl) _ d (hc.reaches (h.lead_reaches c)) hd (by omega)
  | any =>
    intro c d _ hd ho
    have hlead := (h.lead_reaches c).le
    have := Cursor.next?_lt hd
    omega
  | seq a b iha ihb =>
    intro c d hc hd ho
    have iha := iha (fun t ht => hrun t (List.mem_append_left _ ht)) c
    have ihb := ihb (fun t ht => hrun t (List.mem_append_right _ ht))
    simp only [Expr.nullable, Bool.and_eq_true]
    rcases parse_seq a b c with ⟨hnone, he⟩ | ⟨mid, hmid, he⟩
    · rw [he, hnone] at hd
      cases hd
    · rw [he] at hd
      have h1 := h.forward a c mid hmid
      have h2 := h.forward b mid d hd
      -- neither part can have consumed anything
      have ho' : mid.offset = c.offset := Nat.le_antisymm (ho ▸ h2.le) h1.le
      exact ⟨iha mid hc hmid ho', ihb mid d (hc.reaches h1) hd (ho.trans ho'.symm)⟩
  | choice a b iha ihb =>
    intro c d hc hd ho
    simp only [Expr.nullable, Bool.or_eq_true]
    rcases parse_choice a b c with ⟨-, -, he⟩ | ⟨-, he⟩
    · rw [he] at hd
      exact .inl (iha (fun t ht => hrun t (List.mem_append_left _ ht)) c d hc hd ho)
    · rw [he] at hd
      exact .inr (ihb (fun t ht => hrun t (List.mem_append_right _ ht)) c d hc hd ho)
  | rounds e min max ih =>
    intro c d hc hd ho
    have hr := parse_rounds (h.forward e) min max c
    generalize (rounds e min max).parse run lead call c = a at hr hd
    simp only [Expr.nullable, Bool.or_eq_true, beq_iff_eq]
    cases hr with
    | full hm | stop hm hp =>
      simp only [Option.ite_none_right_eq_some] at hd
      exact .inl (Nat.le_zero.1 hd.1)
    | @idle _ _ mid cut hm hp hmid => exact .inr (ih hrun c mid hc (by rw [hp]) hmid)
    | @more _ _ mid cut b hm hp hmid hrest =>
      -- the first round consumed something
      have h1 := (h.forward e c mid (by rw [hp])).le
      have h2 := (hrest.forward (h.forward e) d hd).le
      omega
  | rule r => intro c d hc hd ho; exact h.call_nullable r c d hc hd ho

/-- A rule that is called before anything is consumed is among the leftmost ones. -/
theorem leftmost (e : Expr τ ρ) (hrun : ∀ t ∈ e.terminals, JudgedTerminal run onTerminal text t) :
    ∀ {c : Cursor} {x : ρ × Cursor}, c.In text → x ∈ e.calls run lead call c → x.2.offset = c.offset →
      x.1 ∈ e.leftmost onTerminal onRule := by
  induction e with
  | empty | never | literal _ | terminal _ | any => intro c x _ hx; cases hx
  | seq a b iha ihb =>
    intro c x hc hx ho
    have hrun' : ∀ t ∈ a.terminals, JudgedTerminal run onTerminal text t :=
      fun t ht => hrun t (List.mem_append_left _ ht)
    rw [Expr.leftmost]
    rcases List.mem_append.1 hx with hx | hx
    · have := iha hrun' hc hx ho
      split
      · exact List.mem_append_left _ this
      · exact this
    · cases hr : (a.parse run lead call c).result with
      | none =>
        rw [hr] at hx
        cases hx
      | some mid =>
        rw [hr] at hx
        have h1 := h.forward a c mid hr
        have h2 := calls_reaches h.forward b hx
        have hmid : mid.offset = c.offset := by
          have := h1.le
          have := h2.le
          omega
        rw [if_pos (h.nullable a hrun' c mid hc hr hmid)]
        exact List.mem_append_right _
          (ihb (fun t ht => hrun t (List.mem_append_right _ ht)) (hc.reaches h1) hx (by omega))
  | choice a b iha ihb =>
    intro c x hc hx ho
    rcases List.mem_append.1 hx with hx | hx
    · exact List.mem_append_left _ (iha (fun t ht => hrun t (List.mem_append_left _ ht)) hc hx ho)
    · split at hx
      · cases hx
      · exact List.mem_append_right _ (ihb (fun t ht => hrun t (List.mem_append_right _ ht)) hc hx ho)
  | rounds e min max ih =>
    intro c x hc hx ho
    obtain ⟨d, hd, hxd⟩ := List.mem_flatMap.1 hx
    -- only the first round is made before anything is consumed
    obtain ⟨-, rfl | hlt⟩ := mem_triedFrom (h.forward e) c.rest hd
    · exact ih hrun hc hxd ho
    · have := (calls_reaches h.forward e hxd).le
      omega
  | ahead e ih | notAhead e ih => intro c x hc hx ho; exact ih hrun hc hx ho
  | rule r =>
    intro c x _ hx _
    cases List.mem_singleton.1 hx
    exact List.mem_singleton.2 rfl

end Judged

end Expr

/-! ## The rules of a matcher -/

namespace Matcher

variable (m : Matcher)

/-- The rules taken for nullable. -/
def known : Vector Bool m.size := LeftRecursion.nullableRules Grammar.matchesEmpty m.rules

/-- The rules that a rule may call before anything is consumed. -/
def first (i : Fin m.size) : List (Fin m.size) := (m.rules.get i).leftmost Grammar.matchesEmpty m.known.get

/-- Each terminal of a rule that matches somewhere in the text without consuming matches the empty text too. -/
def JudgesEmpty (text : List Char) : Prop :=
  ∀ i : Fin m.size, ∀ p ∈ (m.rules.get i).terminals, ∀ rest, rest <:+ text → ∀ f, p.find? (.start rest) = some f →
    f.stop.offset = 0 → Grammar.matchesEmpty p = true

/-- Terminals that do not ask for a word are judged rightly in every text. -/
theorem judgesEmpty_of_wantsWord (h : ∀ i : Fin m.size, ∀ p ∈ (m.rules.get i).terminals, p.wantsWord = false)
    (text : List Char) : m.JudgesEmpty text :=
  fun i p hp _ _ _ hf ho => Regex.Program.find?_nil_isSome (h i p hp) hf ho

variable {m} {text : List Char} {lead : Cursor → Cursor × Bool} (hm : m.JudgesEmpty text)
  (hreach : ∀ c : Cursor, c.Reaches (lead c).1)
include hm

theorem JudgesEmpty.terminal (i : Fin m.size) :
    ∀ p ∈ (m.rules.get i).terminals, Expr.JudgedTerminal runTerminal Grammar.matchesEmpty text p := by
  intro p hp c d hc hd ho
  rw [runTerminal_eq] at hd
  obtain ⟨f, hf, rfl⟩ := Option.map_eq_some_iff.1 hd
  have hrest : c.rest <:+ text := by
    obtain ⟨mid, hmid, -⟩ := hc
    exact ⟨mid, hmid.symm⟩
  refine hm i p hp c.rest hrest f hf ?_
  simp only [Regex.Found.shift] at ho
  omega

include hreach

/-- By induction on the levels: what a call comes to is known one level further down. -/
theorem JudgesEmpty.judged (levels : Nat) :
    Expr.Judged runTerminal lead (m.call lead levels) m.known.get text := by
  induction levels with
  | zero =>
    refine ⟨runTerminal_reaches, hreach, fun i c d hd => ?_, fun i c d _ hd => ?_⟩
    · cases hd
    · cases hd
  | succ levels ih =>
    refine ⟨runTerminal_reaches, hreach, fun i => m.parse_forward hreach levels (m.rules.get i), fun i c d hc hd ho => ?_⟩
    rw [call, parse_eq] at hd
    exact LeftRecursion.nullable_closed _ _ i (ih.nullable (m.rules.get i) (hm.terminal i) c d hc hd ho)

omit hm hreach

/-- The second of two active rules was entered further on than the first, or by leftmost calls from it. -/
def Deeper (m : Matcher) (x y : Fin m.size × Nat) : Prop :=
  x.2 < y.2 ∨ (x.2 = y.2 ∧ Relation.TransGen (fun j i => j ∈ m.first i) y.1 x.1)

instance : Trans m.Deeper m.Deeper m.Deeper where
  trans := by
    rintro x y z (hxy | ⟨hxy, h⟩) (hyz | ⟨hyz, h'⟩)
    · exact .inl (hxy.trans hyz)
    · exact .inl (hyz ▸ hxy)
    · exact .inl (hxy ▸ hyz)
    · exact .inr ⟨hxy.trans hyz, h'.trans h⟩

theorem Deeper.ne (hw : WellFounded fun j i => j ∈ m.first i) {x y : Fin m.size × Nat} (h : m.Deeper x y) : x ≠ y := by
  rintro rfl
  rcases h with h | ⟨-, h⟩
  · exact Nat.lt_irrefl _ h
  · exact hw.transGen.irrefl.irrefl x.1 h

include hm hreach

/-- Going inwards, active rules lie deeper and deeper. -/
theorem JudgesEmpty.callStacks_chain (st : List (Fin m.size × Nat)) : ∀ {levels : Nat} {e : Node m.size} {c : Cursor},
    c.In text → st ∈ m.callStacks lead levels e c →
      st.IsChain m.Deeper ∧ ∀ x ∈ st, x.2 ≤ byteLength text := by
  induction st with
  | nil => intro levels e c _ _; exact ⟨.nil, by simp⟩
  | cons y st ih =>
    intro levels e c hc h
    obtain ⟨x, hx, rfl, hst⟩ := mem_callStacks h
    have hin : x.2.In text := hc.reaches (calls_reaches hreach hx)
    rcases hst with rfl | ⟨k, rfl, hst⟩
    · exact ⟨.singleton _, by simpa using hin.le_length⟩
    · obtain ⟨hchain, hle⟩ := ih hin hst
      refine ⟨List.isChain_cons.2 ⟨fun y hy => ?_, hchain⟩, fun y hy => ?_⟩
      · -- the next rule is called by the one before it, at or after the place where that one was entered
        obtain ⟨st', rfl⟩ : ∃ st', st = y :: st' := by
          cases st with
          | nil => cases hy
          | cons z st' => cases hy; exact ⟨st', rfl⟩
        obtain ⟨x', hx', rfl, -⟩ := mem_callStacks hst
        rcases Nat.lt_or_eq_of_le (calls_reaches hreach hx').le with hlt | heq
        · exact .inl hlt
        · exact .inr ⟨heq, .single ((hm.judged hreach k).leftmost _ (hm.terminal x.1) hin hx' heq.symm)⟩
      · rcases List.mem_cons.1 hy with rfl | hy
        · exact hin.le_length
        · exact hle y hy

theorem JudgesEmpty.callStacks_nodup (hw : WellFounded fun j i => j ∈ m.first i) {levels : Nat} {e : Node m.size}
    {c : Cursor} (hc : c.In text) {st : List (Fin m.size × Nat)} (h : st ∈ m.callStacks lead levels e c) : st.Nodup :=
  (hm.callStacks_chain hreach st hc h).1.pairwise.imp fun h => h.ne hw

/-- A stack is no higher than there are pairs of a rule and an offset. -/
theorem JudgesEmpty.callStacks_length_le (hw : WellFounded fun j i => j ∈ m.first i) {levels : Nat} {e : Node m.size}
    {c : Cursor} (hc : c.In text) {st : List (Fin m.size × Nat)} (h : st ∈ m.callStacks lead levels e c) :
    st.length ≤ m.size * (byteLength text + 1) := by
  have hsub : st.toFinset ⊆ (Finset.univ : Finset (Fin m.size)) ×ˢ Finset.range (byteLength text + 1) := by
    intro x hx
    have := (hm.callStacks_chain hreach st hc h).2 x (List.mem_toFinset.1 hx)
    simp only [Finset.mem_product, Finset.mem_univ, Finset.mem_range, true_and]
    omega
  calc st.length = st.toFinset.card := (List.toFinset_card_of_nodup (hm.callStacks_nodup hreach hw hc h)).symm
    _ ≤ ((Finset.univ : Finset (Fin m.size)) ×ˢ Finset.range (byteLength text + 1)).card := Finset.card_le_card hsub
    _ = m.size * (byteLength text + 1) := by rw [Finset.card_product, Finset.card_fin, Finset.card_range]

omit hreach

/-- With levels enough for all pairs of a rule and an offset nothing is cut off, whether something is skipped or not. -/
theorem JudgesEmpty.cutOff_eq_false (hw : WellFounded fun j i => j ∈ m.first i) {levels : Nat}
    (hlevels : m.size * (byteLength text + 1) ≤ levels) {c : Cursor} (hc : c.In text) :
    (m.skip levels c).2 = false ∧ ∀ e : Node m.size, (m.parseSkipping levels e c).cutOff = false := by
  have hstack : ∀ {lead : Cursor → Cursor × Bool}, (∀ c : Cursor, c.Reaches (lead c).1) →
      (∀ d : Cursor, d.In text → (lead d).2 = false) → ∀ (e : Node m.size) (c : Cursor), c.In text →
        (m.parse lead levels e c).cutOff = false := by
    intro lead hreach hlead e c hc
    rw [← Bool.not_eq_true]
    intro hcut
    rcases stack_of_cutOff hreach levels hcut with ⟨d, hd, hl⟩ | ⟨st, hst, hlen⟩
    · rw [hlead d (hc.reaches hd)] at hl
      cases hl
    · have := hm.callStacks_length_le hreach hw hc hst
      omega
  have hskip : ∀ d : Cursor, d.In text → (m.skip levels d).2 = false := by
    intro d hd
    rw [← Bool.not_eq_true]
    intro hcut
    obtain ⟨e, -, d', hd', hcut⟩ := region_of_skip_cutOff hcut
    rw [parseBare, hstack (fun c => .refl c) (fun _ _ => rfl) e d' (hd.reaches hd')] at hcut
    cases hcut
  exact ⟨hskip c hc, fun e => hstack (m.skip_reaches levels) hskip e c hc⟩

end Matcher

/-! ## Grammars -/

namespace Grammar

/-- In a grammar made ready, with terminals judged rightly, no rule is entered again at the same offset in a run while
it is active there, be it with skipping or, for an ignored region, without. Hence, in a text that is short enough for
the number of rules, no place is given up and no call goes beyond the limit on nesting. -/
theorem compile_callStacks_nodup (g : Grammar) (m : Matcher) (h : g.compile = .ok m) (text : List Char)
    (hm : m.JudgesEmpty text) :
    (∀ skipping limit levels e c, c.In text →
      ∀ st ∈ m.callStacks (m.lead skipping limit) levels e c, st.Nodup) ∧
    ((g.rules.length + 1) * (byteLength text + 1) ≤ Matcher.maxNesting →
      (m.findAll Matcher.maxNesting text).abandoned = [] ∧
      (∀ r ∈ m.rounds Matcher.maxNesting text, r.skipCut = false ∧ r.attempt.cutOff = false) ∧
      ∀ skipping e c, c.In text → ∀ st ∈ m.callStacks (m.lead skipping Matcher.maxNesting) Matcher.maxNesting e c,
        st.length ≤ Matcher.maxNesting) := by
  obtain ⟨hw, hsize⟩ : (WellFounded fun j i => j ∈ m.first i) ∧ m.size = g.rules.length := by
    obtain ⟨start, rules, ignored, rfl, -, -, -, hfind⟩ := compile_ok h
    exact ⟨LeftRecursion.wellFounded_of_find? hfind, List.length_map _⟩
  refine ⟨fun skipping limit levels e c hc st hst =>
    hm.callStacks_nodup (m.lead_reaches skipping limit) hw hc hst, fun hshort => ?_⟩
  have hlevels : m.size * (byteLength text + 1) ≤ Matcher.maxNesting := by
    refine Nat.le_trans (Nat.mul_le_mul_right _ ?_) hshort
    omega
  have hrounds : ∀ r ∈ m.rounds Matcher.maxNesting text, r.skipCut = false ∧ r.attempt.cutOff = false := by
    intro r hr
    obtain ⟨hin, he⟩ := m.mem_rounds _ hr
    rw [he]
    exact ⟨(hm.cutOff_eq_false hw hlevels hin).1,
      (hm.cutOff_eq_false hw hlevels (hin.reaches (m.round_reaches _ r.place))).2 m.start⟩
  refine ⟨?_, hrounds, fun skipping e c hc st hst =>
    (hm.callStacks_length_le (m.lead_reaches skipping _) hw hc hst).trans hlevels⟩
  rw [Matcher.findAll_eq, List.filterMap_eq_nil_iff]
  intro r hr
  simp [Round.abandoned?, (hrounds r hr).2]

/-- Words divided by commas, where a word may be empty. -/
def words : Grammar :=
  (({ start := .rule "words" } : Grammar).define "words"
    (.first [.all [.rule "word", .literal [','], .rule "words"], .rule "word"])).define "word" (.terminal "[a-z]*")

/-- No rule is entered again in reading three words, the first of them empty. -/
theorem words_callStacks_nodup : ∃ m, words.compile = .ok m ∧ m.JudgesEmpty ",ab,c".toList ∧
    (words.rules.length + 1) * (byteLength ",ab,c".toList + 1) ≤ Matcher.maxNesting ∧
    (∀ st ∈ m.callStacks (m.lead true Matcher.maxNesting) Matcher.maxNesting m.start (.start ",ab,c".toList), st.Nodup) ∧
    (m.findAll Matcher.maxNesting ",ab,c".toList).abandoned = [] := by
  have h : words.compile.toOption.map (fun m => decide (∀ i : Fin m.size, ∀ p ∈ (m.rules.get i).terminals,
      p.wantsWord = false)) = some true := by decide +kernel
  obtain ⟨m, hm, hall⟩ := toOption_map_ok h
  have hj : m.JudgesEmpty ",ab,c".toList := m.judgesEmpty_of_wantsWord (of_decide_eq_true hall) _
  have hshort : (words.rules.length + 1) * (byteLength ",ab,c".toList + 1) ≤ Matcher.maxNesting := by decide
  obtain ⟨hnodup, hbound⟩ := compile_callStacks_nodup words m hm _ hj
  exact ⟨m, hm, hj, hshort, hnodup true _ _ m.start _ (Cursor.start_in _), (hbound hshort).1⟩

/-- A rule that calls itself at the edge of a word. -/
def wordLoop : Grammar := ({ start := .rule "r" } : Grammar).define "r" (.all [.terminal "\\b", .rule "r"])

/-- The rule is not found to be left-recursive, is entered again where it is active and is cut off. -/
theorem wordLoop_reenters : ∃ m, wordLoop.compile = .ok m ∧
    (wordLoop.rules.length + 1) * (byteLength ['a'] + 1) ≤ Matcher.maxNesting ∧
    (∃ st ∈ m.callStacks (m.lead true Matcher.maxNesting) Matcher.maxNesting m.start (.start ['a']), ¬st.Nodup) ∧
    (m.findAll Matcher.maxNesting ['a']).abandoned = [0] := by
  have h : wordLoop.compile.toOption.map (fun m => (decide (∃ st ∈ m.callStacks (m.lead true Matcher.maxNesting)
      Matcher.maxNesting m.start (.start ['a']), ¬st.Nodup), (m.findAll Matcher.maxNesting ['a']).abandoned)) =
      some (true, [0]) := by decide +kernel
  obtain ⟨m, hm, hr⟩ := toOption_map_ok h
  obtain ⟨hst, habandoned⟩ := Prod.mk.inj hr
  exact ⟨m, hm, by decide, of_decide_eq_true hst, habandoned⟩

end Grammar

end PatternLint
