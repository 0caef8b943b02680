import PatternLint.Proofs.Grammar.Compile
import PatternLint.Proofs.Grammar.Rounds
/-!
# What the limit on nesting changes

An attempt that was not cut off comes out the same however much deeper rules may call one another
(`Matcher.parse_keeps`), and so does a round of the search. Main statement: where no place is given up and no cut-off is
absorbed, a higher limit finds the same matches (`Matcher.findAll_eq_of_absorbs_false`). A cut-off that is absorbed goes
unreported, since the search looks at it only where the whole attempt fails: `Grammar.growing_lost` is a grammar and a
text where matches are lost in this way and no place is given up.
-/
namespace PatternLint

/-! ## Expressions -/

section Keeps
variable {p p' : Cursor → Attempt} {min : Nat} {max : Option Nat}

theorem Repeats.keeps (hp : ∀ c, (p c).cutOff = false → p' c = p c) {count : Nat} {c : Cursor} {a : Attempt}
    (h : Repeats p min max count c a) : a.cutOff = false → Repeats p' min max count c a := by
  have hcut : ∀ {c : Cursor} {r : Option Cursor}, p c = ⟨r, false⟩ → p' c = ⟨r, false⟩ := by
    intro c r hpc
    rw [hp c (by rw [hpc]), hpc]
  induction h with
  | full hm => intro _; exact .full hm
  | stop hm hpc =>
    rintro rfl
    exact .stop hm (hcut hpc)
  | idle hm hpc ho =>
    rintro rfl
    exact .idle hm (hcut hpc) ho
  | more hm hpc ho _ ih =>
    intro h
    obtain ⟨rfl, ha⟩ := Bool.or_eq_false_iff.1 h
    exact .more hm (hcut hpc) ho (ih ha)

end Keeps

/-- An expression keeps its outcome where skipping and calls keep theirs. -/
theorem Expr.parse_keeps {τ ρ : Type} {run : τ → Cursor → Option Cursor} {lead lead' : Cursor → Cursor × Bool}
    {call call' : ρ → Cursor → Attempt} (hf : ∀ (e : Expr τ ρ) c, (e.parse run lead call c).Forward c)
    (hf' : ∀ (e : Expr τ ρ) c, (e.parse run lead' call' c).Forward c)
    (hlead : ∀ c, (lead c).2 = false → lead' c = lead c)
    (hcall : ∀ r c, (call r c).cutOff = false → call' r c = call r c) (e : Expr τ ρ) :
    ∀ c, (e.parse run lead call c).cutOff = false → e.parse run lead' call' c = e.parse run lead call c := by
  induction e with
  | empty | never => intro _ _; rfl
  | literal word | terminal t | any =>
    intro c hcut
    simp only [parse, hlead c hcut]
  | seq a b iha ihb =>
    intro c
    have ha := iha c
    rw [parse, parse]
    generalize a.parse run lead call c = x at ha
    obtain ⟨_ | d, cut⟩ := x
    · intro hcut
      rw [ha hcut]
    · intro hcut
      obtain ⟨rfl, hb⟩ := Bool.or_eq_false_iff.1 hcut
      rw [ha rfl]
      simp only [ihb d hb]
  | choice a b iha ihb =>
    intro c
    have ha := iha c
    rw [parse, parse]
    generalize a.parse run lead call c = x at ha
    obtain ⟨_ | d, cut⟩ := x
    · intro hcut
      obtain ⟨rfl, hb⟩ := Bool.or_eq_false_iff.1 hcut
      rw [ha rfl]
      simp only [ihb c hb]
    · intro hcut
      rw [ha hcut]
  | rounds e min max ih =>
    intro c hcut
    exact (parse_rounds (hf' e) min max c).unique ((parse_rounds (hf e) min max c).keeps ih hcut)
  | ahead e ih | notAhead e ih =>
    intro c hcut
    simp only [parse, ih c hcut]
  | rule r => exact hcall r

/-! ## Matchers -/

namespace Matcher

variable (m : Matcher) {levels levels' : Nat}

/-- An attempt that was not cut off comes out the same with more levels. -/
theorem parse_keeps {lead lead' : Cursor → Cursor × Bool} (hreach : ∀ c : Cursor, c.Reaches (lead c).1)
    (hreach' : ∀ c : Cursor, c.Reaches (lead' c).1) (hlead : ∀ c, (lead c).2 = false → lead' c = lead c)
    (hle : levels ≤ levels') : ∀ (e : Node m.size) (c : Cursor), (m.parse lead levels e c).cutOff = false →
      m.parse lead' levels' e c = m.parse lead levels e c := by
  induction levels generalizing levels' with
  | zero =>
    -- every call is cut off, so that there was none
    cases levels' with
    | zero => exact Expr.parse_keeps (m.parse_forward hreach 0) (m.parse_forward hreach' 0) hlead fun _ _ _ => rfl
    | succ k =>
      exact Expr.parse_keeps (m.parse_forward hreach 0) (m.parse_forward hreach' (k + 1)) hlead
        fun _ _ h => by cases h
  | succ levels ih =>
    obtain ⟨k, rfl⟩ : ∃ k, levels' = k + 1 := ⟨levels' - 1, by omega⟩
    exact Expr.parse_keeps (m.parse_forward hreach (levels + 1)) (m.parse_forward hreach' (k + 1)) hlead
      fun i => ih (by omega) (m.rules.get i)

theorem parseBare_keeps (hle : levels ≤ levels') (e : Node m.size) (c : Cursor)
    (hcut : (m.parseBare levels e c).cutOff = false) : m.parseBare levels' e c = m.parseBare levels e c :=
  m.parse_keeps (fun c => .refl c) (fun c => .refl c) (fun _ _ => rfl) hle e c hcut

theorem foldl_skipRegion_keeps (hle : levels ≤ levels') (es : List (Node m.size)) : ∀ x : Cursor × Bool,
    (es.foldl (m.skipRegion levels) x).2 = false →
      x.2 = false ∧ es.foldl (m.skipRegion levels') x = es.foldl (m.skipRegion levels) x := by
  induction es with
  | nil => intro x hx; exact ⟨hx, rfl⟩
  | cons e es ih =>
    intro x hcut
    obtain ⟨hx, he⟩ := ih _ hcut
    obtain ⟨hx, ha⟩ := Bool.or_eq_false_iff.1 hx
    refine ⟨hx, ?_⟩
    rw [List.foldl_cons, List.foldl_cons, ← he]
    simp only [skipRegion, m.parseBare_keeps hle e x.1 ha]

theorem skipOnce_keeps (hle : levels ≤ levels') {c : Cursor} (hcut : (m.skipOnce levels c).2 = false) :
    m.skipOnce levels' c = m.skipOnce levels c :=
  (m.foldl_skipRegion_keeps hle m.ignored _ hcut).2

theorem SkipsTo.unique {c : Cursor} {x y : Cursor × Bool} (h : m.SkipsTo levels c x) (h' : m.SkipsTo levels c y) :
    x = y := by
  induction h generalizing y with
  | done ho =>
    cases h' with
    | done _ => rfl
    | more ho' _ => exact absurd ho ho'
  | more ho _ ih =>
    cases h' with
    | done ho' => exact absurd ho' ho
    | more _ hs =>
      cases ih hs
      rfl

theorem SkipsTo.keeps (hle : levels ≤ levels') {c : Cursor} {x : Cursor × Bool} (h : m.SkipsTo levels c x) :
    x.2 = false → m.SkipsTo levels' c x := by
  induction h with
  | done ho =>
    intro hcut
    have he := m.skipOnce_keeps hle hcut
    rw [← he] at ho ⊢
    exact .done ho
  | more ho _ ih =>
    intro hcut
    obtain ⟨h1, h2⟩ := Bool.or_eq_false_iff.1 hcut
    have he := m.skipOnce_keeps hle h1
    have hs := ih h2
    rw [← he] at ho hs ⊢
    exact .more ho hs

theorem skip_keeps (hle : levels ≤ levels') (c : Cursor) (hcut : (m.skip levels c).2 = false) :
    m.skip levels' c = m.skip levels c :=
  SkipsTo.unique m (m.skip_skipsTo levels' c) (SkipsTo.keeps m hle (m.skip_skipsTo levels c) hcut)

/-! ## The search -/

theorem round_keeps (hle : levels ≤ levels') {c : Cursor} (hskip : (m.round levels c).skipCut = false)
    (hcut : (m.round levels c).attempt.cutOff = false) : m.round levels' c = m.round levels c := by
  simp only [round] at hskip hcut ⊢
  rw [m.skip_keeps hle c hskip]
  simp only [parseSkipping] at hcut ⊢
  rw [m.parse_keeps (m.skip_reaches levels) (m.skip_reaches levels') (m.skip_keeps hle) hle m.start _ hcut]

theorem roundsFrom_keeps (hle : levels ≤ levels') (budget : List Char) : ∀ c : Cursor,
    (∀ r ∈ m.roundsFrom levels c budget, r.skipCut = false ∧ r.attempt.cutOff = false) →
      m.roundsFrom levels' c budget = m.roundsFrom levels c budget := by
  induction budget with
  | nil =>
    intro c h
    obtain ⟨hs, ha⟩ := h (m.round levels c) List.mem_cons_self
    rw [roundsFrom, roundsFrom, m.round_keeps hle hs ha]
  | cons x budget ih =>
    intro c h
    rw [roundsFrom] at h
    obtain ⟨hs, ha⟩ := h (m.round levels c) List.mem_cons_self
    rw [roundsFrom, roundsFrom, m.round_keeps hle hs ha]
    cases hn : (m.round levels c).next? with
    | none => rfl
    | some next =>
      simp only
      rw [ih next fun r hr => h r (List.mem_cons_of_mem _ (by rw [hn]; exact hr))]

end Matcher

/-- The round was cut off and does not show it: while skipping, or in an attempt that succeeded all the same. -/
def Round.absorbs (r : Round) : Bool := r.skipCut || (r.attempt.result.isSome && r.attempt.cutOff)

/-- If no place is given up and no round absorbs a cut-off, then the same matches are found with any higher limit on
nesting. -/
theorem Matcher.findAll_eq_of_absorbs_false (m : Matcher) (text : List Char)
    (habandoned : (m.findAll maxNesting text).abandoned = [])
    (habsorbs : ∀ r ∈ m.rounds maxNesting text, r.absorbs = false) (limit : Nat) (hlimit : maxNesting ≤ limit) :
    m.findAll limit text = m.findAll maxNesting text := by
  have huncut : ∀ r ∈ m.rounds maxNesting text, r.skipCut = false ∧ r.attempt.cutOff = false := by
    intro r hr
    obtain ⟨hskip, hsome⟩ := Bool.or_eq_false_iff.1 (habsorbs r hr)
    refine ⟨hskip, ?_⟩
    cases hres : r.attempt.result with
    | some d => simpa [hres] using hsome
    | none =>
      rw [← Bool.not_eq_true]
      intro hcut
      -- the attempt failed after it was cut off, so that its place is among those given up
      rw [findAll_eq] at habandoned
      have := List.filterMap_eq_nil_iff.1 habandoned r hr
      simp [Round.abandoned?, hres, hcut] at this
  rw [findAll_eq, findAll_eq, rounds, rounds, m.roundsFrom_keeps hlimit text _ huncut]

/-- Blocks in brackets, one after the other. -/
def Grammar.blocks : Grammar := ({ start := .rule "block" } : Grammar).nested "block" "(" ")"

/-- A block, and one that does not end, come out the same with a higher limit. -/
theorem Grammar.blocks_findAll_eq : ∃ m, blocks.compile = .ok m ∧
    (m.findAll Matcher.maxNesting "((a)b) (c".toList).abandoned = [] ∧
    (∀ r ∈ m.rounds Matcher.maxNesting "((a)b) (c".toList, r.absorbs = false) ∧
    m.findAll 1000 "((a)b) (c".toList = m.findAll Matcher.maxNesting "((a)b) (c".toList := by
  have h : blocks.compile.toOption.map (fun m => ((m.findAll Matcher.maxNesting "((a)b) (c".toList).abandoned,
      (m.rounds Matcher.maxNesting "((a)b) (c".toList).all (!·.absorbs))) = some ([], true) := by decide +kernel
  obtain ⟨m, hm, hr⟩ := toOption_map_ok h
  obtain ⟨habandoned, hall⟩ := Prod.mk.inj hr
  have habsorbs : ∀ r ∈ m.rounds Matcher.maxNesting "((a)b) (c".toList, r.absorbs = false :=
    fun r hr => by simpa using List.all_eq_true.1 hall r hr
  exact ⟨m, hm, habandoned, habsorbs, m.findAll_eq_of_absorbs_false _ habandoned habsorbs 1000 (by decide)⟩

/-- A word of any number of letters `a`, one level of nesting for each. -/
def Grammar.growing : Grammar :=
  ({ start := .rule "r" } : Grammar).define "r" (.first [.all [.literal ['a'], .rule "r"], .literal []])

/-- A word longer than the limit on nesting is found in two parts, although no place is given up. -/
theorem Grammar.growing_lost : ∃ m, growing.compile = .ok m ∧
    m.findAll Matcher.maxNesting (List.replicate 513 'a') = ⟨[⟨0, 511⟩, ⟨511, 513⟩], []⟩ ∧
    m.findAll 514 (List.replicate 513 'a') = ⟨[⟨0, 513⟩], []⟩ := by
  have h : growing.compile.toOption.map (fun m => (m.findAll Matcher.maxNesting (List.replicate 513 'a'),
      m.findAll 514 (List.replicate 513 'a'))) =
      some (⟨[⟨0, 511⟩, ⟨511, 513⟩], []⟩, ⟨[⟨0, 513⟩], []⟩) := by decide +kernel
  obtain ⟨m, hm, hr⟩ := toOption_map_ok h
  exact ⟨m, hm, Prod.mk.inj hr⟩

end PatternLint
