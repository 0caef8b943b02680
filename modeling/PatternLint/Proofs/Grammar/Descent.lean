import Mathlib.Data.Prod.Lex
import PatternLint.Proofs.Grammar.Calls
import PatternLint.Proofs.Grammar.Loops
/-!
# How calls descend

Trying an expression and skipping call each other. `Makes` says which calls a call makes: an expression is tried on its
parts at the same depth, a rule one deeper, and before a terminal something may be skipped, for which the ignored
regions are tried at depth 0 and without skipping. Each call made stands lower in an order that ends
(`Matcher.makes_wellFounded`), none is deeper than one below the limit, and one that deep is made exactly where an attempt
is marked as cut off (`Matcher.cutOff_iff_deep`). Main statement: `Matcher.search_ends`.
-/
namespace PatternLint

/-! ## Expressions -/

namespace Expr

variable {τ ρ : Type}

/-- The expressions that an expression is made of. -/
def parts : Expr τ ρ → List (Expr τ ρ)
  | empty | never | literal _ | terminal _ | any | rule _ => []
  | seq a b | choice a b => [a, b]
  | rounds e _ _ | ahead e | notAhead e => [e]

/-- Whether the expression is tried on the text itself, past what is skipped. -/
def isTerminal : Expr τ ρ → Bool
  | literal _ | terminal _ | any => true
  | empty | never | seq _ _ | choice _ _ | rounds _ _ _ | ahead _ | notAhead _ | rule _ => false

/-- The number of operators in an expression. -/
def size : Expr τ ρ → Nat
  | empty | never | literal _ | terminal _ | any | rule _ => 1
  | seq a b | choice a b => a.size + b.size + 1
  | rounds e _ _ | ahead e | notAhead e => e.size + 1

theorem size_lt_of_mem_parts {e e' : Expr τ ρ} (h : e' ∈ e.parts) : e'.size < e.size := by
  cases e with
  | empty | never | literal _ | terminal _ | any | rule _ => cases h
  | seq a b | choice a b =>
    simp only [parts, List.mem_cons, List.not_mem_nil, or_false] at h
    rcases h with rfl | rfl <;> simp only [size] <;> omega
  | rounds e _ _ | ahead e | notAhead e =>
    cases List.mem_singleton.1 h
    exact Nat.lt_succ_self _

/-- Trying the first expression at a place comes to trying the second, one of its parts, at a place, where `p` says what
comes of an attempt. -/
inductive Tries (p : Expr τ ρ → Cursor → Attempt) : Expr τ ρ → Cursor → Expr τ ρ → Cursor → Prop
  | seq_first {a b : Expr τ ρ} {c : Cursor} : Tries p (seq a b) c a c
  | seq_second {a b : Expr τ ρ} {c d : Cursor} : (p a c).result = some d → Tries p (seq a b) c b d
  | choice_first {a b : Expr τ ρ} {c : Cursor} : Tries p (choice a b) c a c
  | choice_second {a b : Expr τ ρ} {c : Cursor} : (p a c).result = none → Tries p (choice a b) c b c
  | round {e : Expr τ ρ} {min k : Nat} {max : Option Nat} {c d : Cursor} :
      Visits (repeatBody (p e) min max) (0, c) (k, d) → max.any (· ≤ k) = false → Tries p (rounds e min max) c e d
  | ahead {e : Expr τ ρ} {c : Cursor} : Tries p (ahead e) c e c
  | notAhead {e : Expr τ ρ} {c : Cursor} : Tries p (notAhead e) c e c

theorem Tries.mem_parts {p : Expr τ ρ → Cursor → Attempt} {e e' : Expr τ ρ} {c d : Cursor} (h : Tries p e c e' d) :
    e' ∈ e.parts := by
  cases h <;> simp [parts]

variable {run : τ → Cursor → Option Cursor} {lead : Cursor → Cursor × Bool} {call : ρ → Cursor → Attempt}

/-- If an attempt on a part is cut off, so is the whole. -/
theorem Tries.cutOff (hf : ∀ (e : Expr τ ρ) c, (e.parse run lead call c).Forward c) {e e' : Expr τ ρ} {c d : Cursor}
    (h : Tries (fun e => e.parse run lead call) e c e' d) (hcut : (e'.parse run lead call d).cutOff = true) :
    (e.parse run lead call c).cutOff = true := by
  cases h with
  | @seq_first _ b _ =>
    rcases parse_seq e' b c with ⟨-, he⟩ | ⟨mid, -, he⟩
    · rw [he, hcut]
    · simp [he, hcut]
  | @seq_second a _ _ _ hd =>
    rcases parse_seq a e' c with ⟨hnone, -⟩ | ⟨mid, hmid, he⟩
    · rw [hd] at hnone
      cases hnone
    · rw [hd] at hmid
      cases hmid
      simp [he, hcut]
  | @choice_first _ b _ =>
    rcases parse_choice e' b c with ⟨mid, -, he⟩ | ⟨-, he⟩
    · rw [he, hcut]
    · simp [he, hcut]
  | @choice_second a _ _ hnone =>
    rcases parse_choice a e' c with ⟨mid, hmid, -⟩ | ⟨-, he⟩
    · rw [hnone] at hmid
      cases hmid
    · simp [he, hcut]
  | @round _ min k max _ _ hd hk => exact (parse_rounds (hf e') min max c).cutOff_iff.2 ⟨k, d, hd, hk, hcut⟩
  | ahead => exact hcut
  | notAhead => exact hcut

/-- An attempt is cut off in one that it makes on a part, in what is skipped before a terminal, or in the call of a
rule. -/
theorem exists_of_cutOff (hf : ∀ (e : Expr τ ρ) c, (e.parse run lead call c).Forward c) {e : Expr τ ρ} {c : Cursor}
    (h : (e.parse run lead call c).cutOff = true) :
    (∃ e' d, Tries (fun e => e.parse run lead call) e c e' d ∧ (e'.parse run lead call d).cutOff = true) ∨
      (e.isTerminal = true ∧ (lead c).2 = true) ∨ ∃ r, e = rule r ∧ (call r c).cutOff = true := by
  cases e with
  | empty | never => cases h
  | literal _ | terminal _ | any => exact .inr (.inl ⟨rfl, h⟩)
  | seq a b =>
    left
    rcases parse_seq a b c with ⟨-, he⟩ | ⟨mid, hmid, he⟩
    · rw [he] at h
      exact ⟨a, c, .seq_first, h⟩
    · rw [he] at h
      rcases Bool.or_eq_true_iff.1 h with h | h
      · exact ⟨a, c, .seq_first, h⟩
      · exact ⟨b, mid, .seq_second hmid, h⟩
  | choice a b =>
    left
    rcases parse_choice a b c with ⟨mid, -, he⟩ | ⟨hnone, he⟩
    · rw [he] at h
      exact ⟨a, c, .choice_first, h⟩
    · rw [he] at h
      rcases Bool.or_eq_true_iff.1 h with h | h
      · exact ⟨a, c, .choice_first, h⟩
      · exact ⟨b, c, .choice_second hnone, h⟩
  | rounds e min max =>
    obtain ⟨k, d, hd, hk, hcut⟩ := (parse_rounds (hf e) min max c).cutOff_iff.1 h
    exact .inl ⟨e, d, .round hd hk, hcut⟩
  | ahead e => exact .inl ⟨e, c, .ahead, h⟩
  | notAhead e => exact .inl ⟨e, c, .notAhead, h⟩
  | rule r => exact .inr (.inr ⟨r, rfl, h⟩)

end Expr

/-! ## Matchers -/

namespace Matcher

variable (m : Matcher)

/-- Tries an expression so many calls deep, with or without skipping. Below the deepest nesting it is cut off. -/
def tryAt (skipping : Bool) (depth : Nat) (e : Node m.size) (c : Cursor) : Attempt :=
  if depth ≤ maxNesting then m.parse (m.lead skipping maxNesting) (maxNesting - depth) e c else ⟨none, true⟩

/-- An expression is tried by its parts, and a rule that it calls one deeper. -/
theorem tryAt_eq (skipping : Bool) {depth : Nat} (h : depth ≤ maxNesting) : m.tryAt skipping depth = fun e =>
    e.parse runTerminal (m.lead skipping maxNesting) fun i => m.tryAt skipping (depth + 1) (m.rules.get i) := by
  funext e c
  rw [tryAt, if_pos h, parse_eq]
  congr 1
  funext i c
  rcases Nat.lt_or_eq_of_le h with hlt | rfl
  · rw [tryAt, if_pos (Nat.succ_le_of_lt hlt), show maxNesting - depth = maxNesting - (depth + 1) + 1 by omega]
    rfl
  · rw [tryAt, if_neg (Nat.not_succ_le_self _), Nat.sub_self]
    rfl

theorem tryAt_of_lt (skipping : Bool) {depth : Nat} (h : maxNesting < depth) (e : Node m.size) (c : Cursor) :
    m.tryAt skipping depth e c = ⟨none, true⟩ := if_neg (Nat.not_le.2 h)

/-- An ignored region is tried at depth 0, without skipping. -/
theorem tryAt_bare (e : Node m.size) (c : Cursor) : m.tryAt false 0 e c = m.parseBare maxNesting e c := by
  rw [tryAt, if_pos (Nat.zero_le _), Nat.sub_zero]
  rfl

theorem tryAt_forward (skipping : Bool) (depth : Nat) (e : Node m.size) (c : Cursor) :
    (m.tryAt skipping depth e c).Forward c := by
  unfold tryAt
  split
  · exact m.parse_forward (m.lead_reaches skipping maxNesting) _ e c
  · intro d h
    cases h

theorem tryAt_steady (skipping : Bool) (depth : Nat) (e : Node m.size) : Attempt.Steady (m.tryAt skipping depth e) := by
  intro c d h
  unfold tryAt
  split
  · exact m.parse_congr _ (m.lead_reaches skipping maxNesting) (m.lead_congr maxNesting skipping) e c d h
  · rfl

/-- What comes of a repetition, without a budget. -/
theorem tryAt_rounds (skipping : Bool) {depth : Nat} (h : depth ≤ maxNesting) (e : Node m.size) (min : Nat)
    (max : Option Nat) (c : Cursor) :
    Repeats (m.tryAt skipping depth e) min max 0 c (m.tryAt skipping depth (.rounds e min max) c) := by
  have hf := m.tryAt_forward skipping depth
  rw [tryAt_eq m skipping h] at hf ⊢
  exact Expr.parse_rounds (hf e) min max c

/-! ## Calls -/

/-- A call that is under way: an expression is tried so deep at a place, or all that is ignored is skipped from there. -/
inductive Call where
  | parse (skipping : Bool) (depth : Nat) (e : Node m.size) (c : Cursor)
  | skip (c : Cursor)

namespace Call

variable {m}

/-- How deep rules have called one another. -/
def depth : m.Call → Nat
  | parse _ depth _ _ => depth
  | skip _ => 0

/-- The place from which the call goes on. -/
def place : m.Call → Cursor
  | parse _ _ _ c | skip c => c

/-- Whether the call is cut off, whatever comes of it. -/
def cutOff : m.Call → Bool
  | parse skipping depth e c => (m.tryAt skipping depth e c).cutOff
  | skip c => (m.skip maxNesting c).2

@[simp] theorem cutOff_parse (skipping : Bool) (depth : Nat) (e : Node m.size) (c : Cursor) :
    (parse skipping depth e c).cutOff = (m.tryAt skipping depth e c).cutOff := rfl

@[simp] theorem cutOff_skip (c : Cursor) : (skip c : m.Call).cutOff = (m.skip maxNesting c).2 := rfl

/-- What becomes less from call to call: first skipping comes to its end, then the levels and then the expression. -/
def rank : m.Call → ℕ ×ₗ ℕ ×ₗ ℕ
  | parse skipping depth e _ => toLex (if skipping then 2 else 0, toLex (maxNesting + 1 - depth, e.size))
  | skip _ => toLex (1, toLex (0, 0))

end Call

/-- The first call makes the second. -/
inductive Makes : m.Call → m.Call → Prop
  | part {skipping : Bool} {depth : Nat} {e e' : Node m.size} {c d : Cursor} : depth ≤ maxNesting →
      Expr.Tries (m.tryAt skipping depth) e c e' d → Makes (.parse skipping depth e c) (.parse skipping depth e' d)
  | rule {skipping : Bool} {depth : Nat} {i : Fin m.size} {c : Cursor} : depth ≤ maxNesting →
      Makes (.parse skipping depth (.rule i) c) (.parse skipping (depth + 1) (m.rules.get i) c)
  | skip {depth : Nat} {e : Node m.size} {c : Cursor} : depth ≤ maxNesting → e.isTerminal = true →
      Makes (.parse true depth e c) (.skip c)
  /-- In each pass the ignored regions are tried in turn, each where those before it have led to. -/
  | region {c d : Cursor} {e : Node m.size} {es es' : List (Node m.size)} : Visits (m.pass maxNesting) c d →
      m.ignored = es ++ e :: es' →
      Makes (.skip c) (.parse false 0 e (es.foldl (m.skipRegion maxNesting) (m.pastBlanks d, false)).1)

variable {m}

theorem Makes.rank_lt {x y : m.Call} (h : m.Makes x y) : y.rank < x.rank := by
  cases h with
  | part _ ht =>
    refine Prod.Lex.toLex_lt_toLex.2 (.inr ⟨rfl, Prod.Lex.toLex_lt_toLex.2 (.inr ⟨rfl, ?_⟩)⟩)
    exact Expr.size_lt_of_mem_parts ht.mem_parts
  | rule hd =>
    refine Prod.Lex.toLex_lt_toLex.2 (.inr ⟨rfl, Prod.Lex.toLex_lt_toLex.2 (.inl ?_)⟩)
    simp only
    omega
  | skip _ _ => exact Prod.Lex.toLex_lt_toLex.2 (.inl (by simp))
  | region _ _ => exact Prod.Lex.toLex_lt_toLex.2 (.inl (by simp))

theorem Makes.depth_le {x y : m.Call} (h : m.Makes x y) : y.depth ≤ maxNesting + 1 := by
  cases h with
  | part hd _ => exact Nat.le_succ_of_le hd
  | rule hd => exact Nat.succ_le_succ hd
  | skip _ _ | region _ _ => exact Nat.zero_le _

variable (m)

/-- No calls can go on calling one another for ever. -/
theorem makes_wellFounded : WellFounded fun y x : m.Call => m.Makes x y :=
  Subrelation.wf Makes.rank_lt (InvImage.wf Call.rank wellFounded_lt)

/-! ## Cut-offs -/

theorem foldl_skipRegion_cutOff_iff (levels : Nat) (es : List (Node m.size)) : ∀ s : Cursor × Bool,
    (es.foldl (m.skipRegion levels) s).2 = true ↔ s.2 = true ∨ ∃ as e bs, es = as ++ e :: bs ∧
      (m.parseBare levels e (as.foldl (m.skipRegion levels) s).1).cutOff = true := by
  induction es with
  | nil => intro s; simp
  | cons e es ih =>
    intro s
    rw [List.foldl_cons, ih, skipRegion, Bool.or_eq_true_iff, or_assoc]
    refine or_congr_right ⟨?_, ?_⟩
    · rintro (hcut | ⟨as, e', bs, rfl, hcut⟩)
      · exact ⟨[], e, es, rfl, hcut⟩
      · exact ⟨e :: as, e', bs, rfl, hcut⟩
    · rintro ⟨as, e', bs, hes, hcut⟩
      cases as with
      | nil =>
        cases hes
        exact .inl hcut
      | cons a as =>
        cases hes
        exact .inr ⟨as, e', bs, rfl, hcut⟩

theorem skip_cutOff_iff (c : Cursor) : (m.skip maxNesting c).2 = true ↔
    ∃ y, m.Makes (.skip c) y ∧ y.cutOff = true := by
  rw [(m.skip_skipsTo maxNesting c).cutOff_iff]
  simp only [skipOnce_eq, foldl_skipRegion_cutOff_iff, Bool.false_eq_true, false_or]
  constructor
  · rintro ⟨d, hd, es, e, es', hes, hcut⟩
    exact ⟨_, .region hd hes, by rw [Call.cutOff_parse, tryAt_bare]; exact hcut⟩
  · rintro ⟨y, hy, hcut⟩
    cases hy with
    | @region _ d e es es' hd hes =>
      rw [Call.cutOff_parse, tryAt_bare] at hcut
      exact ⟨d, hd, es, e, es', hes, hcut⟩

/-- A call is cut off if it is too deep or makes one that is, and not otherwise. -/
theorem cutOff_iff (x : m.Call) : x.cutOff = true ↔
    maxNesting < x.depth ∨ ∃ y, m.Makes x y ∧ y.cutOff = true := by
  cases x with
  | skip c => simpa [Call.depth] using m.skip_cutOff_iff c
  | parse skipping depth e c =>
    by_cases hd : depth ≤ maxNesting
    · have hf : ∀ (e : Node m.size) c, (e.parse runTerminal (m.lead skipping maxNesting)
          (fun i => m.tryAt skipping (depth + 1) (m.rules.get i)) c).Forward c := by
        intro e c
        have h := m.tryAt_forward skipping depth e c
        rwa [tryAt_eq m skipping hd] at h
      have hdeep : ¬maxNesting < depth := Nat.not_lt.2 hd
      simp only [Call.cutOff_parse, Call.depth, hdeep, false_or]
      constructor
      · intro h
        rw [tryAt_eq m skipping hd] at h
        rcases Expr.exists_of_cutOff hf h with ⟨e', d, ht, hcut⟩ | ⟨hterm, hcut⟩ | ⟨i, rfl, hcut⟩
        · refine ⟨.parse skipping depth e' d, .part hd ?_, ?_⟩
          · rw [tryAt_eq m skipping hd]
            exact ht
          · rw [Call.cutOff_parse, tryAt_eq m skipping hd]
            exact hcut
        · cases skipping with
          | false => cases hcut
          | true => exact ⟨.skip c, .skip hd hterm, hcut⟩
        · exact ⟨_, .rule hd, hcut⟩
      · rintro ⟨y, hy, hcut⟩
        rw [tryAt_eq m skipping hd]
        cases hy with
        | part _ ht =>
          rw [tryAt_eq m skipping hd] at ht
          rw [Call.cutOff_parse, tryAt_eq m skipping hd] at hcut
          exact ht.cutOff hf hcut
        | rule _ => exact hcut
        | skip _ hterm =>
          cases e with
          | literal _ | terminal _ | any => exact hcut
          | empty | never | seq _ _ | choice _ _ | rounds _ _ _ | ahead _ | notAhead _ | rule _ => cases hterm
    · have hdeep : maxNesting < depth := Nat.lt_of_not_le hd
      simp [Call.cutOff, Call.depth, hdeep, tryAt_of_lt m skipping hdeep]

/-- A call is cut off exactly if it comes to one that is too deep. -/
theorem cutOff_iff_deep (x : m.Call) : x.cutOff = true ↔
    ∃ y, Relation.ReflTransGen m.Makes x y ∧ maxNesting < y.depth := by
  induction x using m.makes_wellFounded.induction with
  | _ x ih =>
    rw [cutOff_iff]
    constructor
    · rintro (hdeep | ⟨y, hy, hcut⟩)
      · exact ⟨x, .refl, hdeep⟩
      · obtain ⟨z, hz, hdeep⟩ := (ih y hy).1 hcut
        exact ⟨z, .head hy hz, hdeep⟩
    · rintro ⟨z, hz, hdeep⟩
      rcases Relation.ReflTransGen.cases_head hz with rfl | ⟨y, hy, hz⟩
      · exact .inl hdeep
      · exact .inr ⟨y, hy, (ih y hy).2 ⟨z, hz, hdeep⟩⟩

/-! ## All of it ends -/

/-- Everything that a search in a text does comes to an end. -/
structure Ends (text : List Char) : Prop where
  /-- A search makes no more attempts than there are characters, and one. -/
  attempts : ∃ n, Breaks (m.searchBody maxNesting) ⟨.start text, none, [], []⟩ n (m.findAll maxNesting text) ∧
    n ≤ text.length + 1
  /-- Skipping makes no more passes than there are bytes left, and one. -/
  passes : ∀ c : Cursor, c.In text →
    ∃ n, Breaks (m.pass maxNesting) c n (m.skip maxNesting c).1 ∧ n ≤ byteLength text - c.offset + 1
  /-- A repetition makes no more rounds than there are bytes left, and one. -/
  rounds : ∀ (skipping : Bool) (depth : Nat) (e : Node m.size) (min : Nat) (max : Option Nat) (c : Cursor),
    depth ≤ maxNesting → c.In text →
      ∃ n, Breaks (repeatBody (m.tryAt skipping depth e) min max) (0, c) n
        (m.tryAt skipping depth (.rounds e min max) c).result ∧ n ≤ byteLength text - c.offset + 1
  /-- Trying an expression goes on with one of its parts, as deep as before, or with the rule it calls, one deeper. -/
  descends : ∀ {skipping skipping' : Bool} {depth depth' : Nat} {e e' : Node m.size} {c c' : Cursor},
    m.Makes (.parse skipping depth e c) (.parse skipping' depth' e' c') → skipping' = skipping ∧
      (e' ∈ e.parts ∧ depth' = depth ∨ (∃ i, e = .rule i ∧ e' = m.rules.get i) ∧ depth' = depth + 1)
  /-- It comes to skipping only before a terminal, and not within an ignored region. -/
  skips : ∀ {skipping : Bool} {depth : Nat} {e : Node m.size} {c c' : Cursor},
    m.Makes (.parse skipping depth e c) (.skip c') → skipping = true ∧ e.isTerminal = true
  /-- Skipping tries the ignored regions, from depth 0 and without skipping. -/
  regions : ∀ {c : Cursor} {y : m.Call}, m.Makes (.skip c) y → ∃ e ∈ m.ignored, ∃ d, y = .parse false 0 e d
  depth_le : ∀ {x y : m.Call}, m.Makes x y → y.depth ≤ maxNesting + 1
  /-- No calls go on calling one another for ever. -/
  wellFounded : WellFounded fun y x : m.Call => m.Makes x y
  /-- The limit is passed exactly where an attempt is marked as cut off. -/
  cutOff : ∀ x : m.Call, x.cutOff = true ↔ ∃ y, Relation.ReflTransGen m.Makes x y ∧ maxNesting < y.depth

/-- For every grammar made ready and every text: a search, each skipping and each repetition come to an end within the
bounds that the text sets, and calls descend to smaller expressions or to deeper rules, which ends one below the deepest
nesting. -/
theorem search_ends (text : List Char) : m.Ends text where
  attempts := m.searchFrom_breaks maxNesting text ⟨.start text, none, [], []⟩ (Nat.le_refl _)
  passes c hc := by
    obtain ⟨n, hn, hle⟩ := (m.skip_skipsTo maxNesting c).breaks
    exact ⟨n, hn, hle.trans (Nat.succ_le_succ hc.length_rest_le)⟩
  rounds skipping depth e min max c hd hc := by
    obtain ⟨n, hn, hle⟩ := (m.tryAt_rounds skipping hd e min max c).breaks (m.tryAt_forward skipping depth e)
    exact ⟨n, hn, hle.trans (Nat.succ_le_succ hc.length_rest_le)⟩
  descends h := by
    cases h with
    | part _ ht => exact ⟨rfl, .inl ⟨ht.mem_parts, rfl⟩⟩
    | rule _ => exact ⟨rfl, .inr ⟨⟨_, rfl, rfl⟩, rfl⟩⟩
  skips h := by
    cases h with
    | skip _ hterm => exact ⟨rfl, hterm⟩
  regions h := by
    cases h with
    | region _ hes => exact ⟨_, by simp [hes], _, rfl⟩
  depth_le := Makes.depth_le
  wellFounded := m.makes_wellFounded
  cutOff := m.cutOff_iff_deep

end Matcher

end PatternLint
