import PatternLint.Proofs.Grammar.Descent
import PatternLint.Proofs.Text.Lines
/-!
# Where a grammar looks at the text

Whatever calls a search makes, the places they stand at follow one another in the text (`Makes.reaches`), and so do the
places where the text itself is looked at (`Call.LooksAt`). So each of them lies between two characters, and cutting the
text there gives what is looked at. Main statement: `Matcher.stays_in_text`, which also says what skipping leaves behind.
-/
namespace PatternLint

/-- The text can be cut at the cursor, and what is left from there on is what the cursor has before it. -/
def Cursor.Cuts (c : Cursor) (text : List Char) : Prop := ∃ pre, cutBytes? c.offset text = some (pre, c.rest)

theorem Cursor.In.cuts {c : Cursor} {text : List Char} (h : c.In text) : c.Cuts text := by
  obtain ⟨pre, hrest, hoffset⟩ := h
  simp only [start, Nat.zero_add] at hrest hoffset
  exact ⟨pre, cutBytes?_eq_some_iff.2 ⟨hrest.symm, hoffset.symm⟩⟩

theorem visits_repeatBody_reaches {p : Cursor → Attempt} {min : Nat} {max : Option Nat} (hp : ∀ c, (p c).Forward c)
    {s t : Nat × Cursor} (h : Visits (repeatBody p min max) s t) : s.2.Reaches t.2 := by
  induction h with
  | refl => exact .refl _
  | @tail t u _ hu ih =>
    unfold repeatBody at hu
    split at hu
    · cases hu
    · split at hu
      · cases hu
      · next d hd =>
        split at hu
        · cases hu
        · cases hu
          exact ih.trans (hp t.2 d hd)

theorem Expr.Tries.reaches {τ ρ : Type} {p : Expr τ ρ → Cursor → Attempt} (hp : ∀ e c, (p e c).Forward c)
    {e e' : Expr τ ρ} {c d : Cursor} (h : Tries p e c e' d) : c.Reaches d := by
  cases h with
  | seq_first | choice_first | choice_second _ | ahead | notAhead => exact .refl c
  | seq_second hd => exact hp _ c d hd
  | round hd _ => exact visits_repeatBody_reaches (hp e') hd

namespace Matcher

variable {m : Matcher}

/-- A call goes forward to those it makes. -/
theorem Makes.reaches {x y : m.Call} (h : m.Makes x y) : x.place.Reaches y.place := by
  cases h with
  | part _ ht => exact ht.reaches (m.tryAt_forward _ _)
  | rule _ | skip _ _ => exact .refl _
  | @region c d e es es' hd hes =>
    have hblanks := (visits_reaches hd).trans (m.pastBlanks_reaches d)
    exact hblanks.trans (m.foldl_skipRegion_reaches maxNesting es (m.pastBlanks d, false))

theorem makes_reaches {x y : m.Call} (h : Relation.ReflTransGen m.Makes x y) : x.place.Reaches y.place := by
  induction h with
  | refl => exact .refl _
  | tail _ hy ih => exact ih.trans hy.reaches

/-- A call looks at the text from a place on: a terminal past what is skipped before it, and skipping at the beginning
of each pass, for blanks. -/
inductive Call.LooksAt : m.Call → Cursor → Prop
  | terminal {skipping : Bool} {depth : Nat} {e : Node m.size} {c : Cursor} : depth ≤ maxNesting →
      e.isTerminal = true → LooksAt (.parse skipping depth e c) (m.lead skipping maxNesting c).1
  | blanks {c d : Cursor} : m.skipBlanks = true → Visits (m.pass maxNesting) c d → LooksAt (.skip c) d

theorem Call.LooksAt.reaches {x : m.Call} {d : Cursor} (h : x.LooksAt d) : x.place.Reaches d := by
  cases h with
  | @terminal skipping _ _ c _ _ => exact m.lead_reaches skipping maxNesting c
  | blanks _ hd => exact visits_reaches hd

variable (m)

/-- The calls that a search in a text makes itself: in each round it skips, and tries the start expression there. -/
inductive Starts (text : List Char) : m.Call → Prop
  | skip {s : Search} : Visits (m.searchBody maxNesting) ⟨.start text, none, [], []⟩ s → Starts text (.skip s.place)
  | attempt {s : Search} : Visits (m.searchBody maxNesting) ⟨.start text, none, [], []⟩ s →
      Starts text (.parse true 0 m.start (m.skip maxNesting s.place).1)

variable {m}

theorem visits_search_in {text : List Char} {s : Search}
    (h : Visits (m.searchBody maxNesting) ⟨.start text, none, [], []⟩ s) : s.place.In text := by
  induction h with
  | refl => exact Cursor.start_in text
  | @tail s t _ ht ih =>
    unfold searchBody at ht
    simp only at ht
    split at ht
    · next next hn =>
      cases ht
      exact ih.reaches ((m.round_reaches maxNesting s.place).trans (m.round_next maxNesting hn).1)
    · cases ht

theorem cuts_of_looksAt {text : List Char} {x y : m.Call} {d : Cursor} (hx : x.place.In text)
    (hy : Relation.ReflTransGen m.Makes x y) (hd : y.LooksAt d) : d.Cuts text :=
  (hx.reaches ((makes_reaches hy).trans hd.reaches)).cuts

theorem Starts.place_in {text : List Char} {x : m.Call} (h : m.Starts text x) : x.place.In text := by
  cases h with
  | skip hs => exact visits_search_in hs
  | attempt hs => exact (visits_search_in hs).reaches (m.skip_reaches maxNesting _)

variable (m)

/-- Nothing that a grammar does in a text goes back, leaves the text or splits a character. -/
structure StaysIn (text : List Char) : Prop where
  /-- An expression that succeeds ends further on in the text, between two characters. -/
  parse : ∀ (skipping : Bool) (depth : Nat) (e : Node m.size) (c d : Cursor), c.In text →
    (m.tryAt skipping depth e c).result = some d →
      Boundary text d.offset ∧ c.offset ≤ d.offset ∧ d.offset ≤ byteLength text
  skip : ∀ c : Cursor, c.In text → Boundary text (m.skip maxNesting c).1.offset ∧
    c.offset ≤ (m.skip maxNesting c).1.offset ∧ (m.skip maxNesting c).1.offset ≤ byteLength text
  skip_again : ∀ c : Cursor, c.In text →
    (m.skip maxNesting (m.skip maxNesting c).1).1.offset = (m.skip maxNesting c).1.offset
  /-- No blank stands where skipping ends. -/
  blank : m.skipBlanks = true → ∀ c : Cursor, c.In text →
    ∀ x ∈ (textFrom text (m.skip maxNesting c).1.offset).head?, isBlank x = false
  /-- An ignored region fails where skipping ends, or consumes nothing. -/
  region : ∀ c : Cursor, c.In text → ∀ e ∈ m.ignored, ∀ d,
    (m.tryAt false 0 e (m.skip maxNesting c).1).result = some d → d.offset = (m.skip maxNesting c).1.offset
  /-- Wherever a call, or one it comes to, looks at the text, the text can be cut there. -/
  looks : ∀ x y : m.Call, x.place.In text → Relation.ReflTransGen m.Makes x y → ∀ d, y.LooksAt d → d.Cuts text
  /-- Likewise for the calls that a search makes itself, and those they come to. -/
  searches : ∀ x y : m.Call, m.Starts text x → Relation.ReflTransGen m.Makes x y → ∀ d, y.LooksAt d → d.Cuts text
  /-- A search itself looks for the next character where skipping ends. -/
  onward : ∀ s : Search, Visits (m.searchBody maxNesting) ⟨.start text, none, [], []⟩ s →
    (m.skip maxNesting s.place).1.Cuts text

/-- For every grammar made ready and every text: trying an expression and skipping lead forward, to a place between two
characters of the text; skipping again moves nothing, and nothing is left to skip; and wherever the text is looked at on
the way, it can be cut. -/
theorem stays_in_text (text : List Char) : m.StaysIn text where
  parse skipping depth e c d hc h := by
    have hreach := m.tryAt_forward skipping depth e c d h
    exact ⟨(hc.reaches hreach).boundary, hreach.le, (hc.reaches hreach).le_length⟩
  skip c hc := by
    have hreach := m.skip_reaches maxNesting c
    exact ⟨(hc.reaches hreach).boundary, hreach.le, (hc.reaches hreach).le_length⟩
  skip_again c _ := m.skip_skip maxNesting c
  blank hskip c hc x hx := by
    rw [(hc.reaches (m.skip_reaches maxNesting c)).textFrom_eq] at hx
    exact (m.settled_skip maxNesting c).blank hskip x hx
  region c _ e he d hd := by
    rw [tryAt_bare] at hd
    exact (m.settled_skip maxNesting c).region e he d hd
  looks _ _ hx hy _ hd := cuts_of_looksAt hx hy hd
  searches _ _ hx hy _ hd := cuts_of_looksAt hx.place_in hy hd
  onward s hs := ((visits_search_in hs).reaches (m.skip_reaches maxNesting s.place)).cuts

end Matcher

end PatternLint
