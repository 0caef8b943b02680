import PatternLint.Proofs.Capture.FindAll
import PatternLint.Proofs.Grammar.Calls
import PatternLint.Proofs.Regex.Code
import PatternLint.Proofs.Regex.Enclosed
import PatternLint.Proofs.Text.Reads
/-!
# A pattern and the grammar of the pattern

A pattern searches a text as a whole, and a grammar tries its start expression at one place after the other, each time
on what is left of the text. Where the start expression is a pattern that does not look back, both come to the same
matches. Both searches are described place by place: whether a match is reported there, and where the search goes on.
-/
namespace PatternLint

/-! ## A search with a pattern, place by place -/

namespace Regex.Program

variable {p : Program} {c : Cursor} {last : Option Nat} {fuel : Nat}

/-- A match that ended before the place has no influence. -/
theorem findNext?_of_lt (h : ∀ n, last = some n → n < c.offset) : p.findNext? c last = p.find? c := by
  unfold findNext?
  cases hf : p.find? c with
  | none => rfl
  | some m =>
    obtain ⟨hstart, hstop⟩ := find?_le hf
    rw [Option.bind_some, if_neg]
    rintro ⟨-, hlast⟩
    have hlt := h _ hlast
    omega

/-- Where no match starts that is reported, the next match is that of the next place. -/
theorem findNext?_onward (hlast : ∀ n, last = some n → n ≤ c.offset)
    (h : ∀ m, p.find? c = some m → m.start = c.offset → m.stop.offset = c.offset ∧ last = some c.offset) :
    p.findNext? c last = c.next?.bind (p.findNext? · last) := by
  have hnext : c.next?.bind (p.findNext? · last) = c.next?.bind p.find? := by
    cases hn : c.next? with
    | none => rfl
    | some d => exact findNext?_of_lt fun n hl => Nat.lt_of_le_of_lt (hlast n hl) (Cursor.next?_lt hn)
  rw [hnext]
  by_cases hhere : ∃ m, p.find? c = some m ∧ m.start = c.offset
  · obtain ⟨m, hm, hs⟩ := hhere
    obtain ⟨hstop, hl⟩ := h m hm hs
    rw [findNext?, hm, Option.bind_some, if_pos ⟨by rw [hs, hstop], by rw [hl, hstop]⟩]
  · have hfind := find?_of_not_here (p := p) (c := c) fun m hm hs => hhere ⟨m, hm, hs⟩
    rw [← hfind, findNext?]
    cases hf : p.find? c with
    | none => rfl
    | some m =>
      obtain ⟨hstart, hstop⟩ := find?_le hf
      have hne : m.start ≠ c.offset := fun hs => hhere ⟨m, hf, hs⟩
      rw [Option.bind_some, if_neg]
      rintro ⟨-, hl⟩
      have hle := hlast _ hl
      omega

theorem findFrom_onward (hfuel : c.rest.length ≤ fuel) (hlast : ∀ n, last = some n → n ≤ c.offset)
    (h : ∀ m, p.find? c = some m → m.start = c.offset → m.stop.offset = c.offset ∧ last = some c.offset) :
    p.findFrom c last [] fuel = c.next?.elim [] (p.findFrom · last [] fuel) := by
  cases fuel with
  | zero =>
    have hrest : c.rest = [] := List.length_eq_zero_iff.1 (Nat.le_zero.1 hfuel)
    have hnext : c.next? = none := by simp [Cursor.next?, hrest]
    rw [hnext]
    rfl
  | succ fuel =>
    rw [findFrom_succ, findNext?_onward hlast h]
    cases c.next? with
    | none => rfl
    | some d => rw [Option.bind_some, Option.elim_some, findFrom_succ]

theorem findFrom_here {m : Found} (hm : p.find? c = some m)
    (h : m.start = m.stop.offset → last ≠ some m.stop.offset) :
    p.findFrom c last [] (fuel + 1) = m :: p.findFrom m.stop (some m.stop.offset) [] fuel := by
  have hnext : p.findNext? c last = some m := by
    rw [findNext?, hm, Option.bind_some, if_neg fun hs => h hs.1 hs.2]
  rw [findFrom_succ, hnext]

/-- An empty match is left out where the last match ended. -/
theorem findFrom_left_out {m : Found} (hm : p.find? c = some m) (hempty : m.stop.offset = c.offset)
    (hfuel : c.rest.length ≤ fuel) :
    p.findFrom c (some c.offset) [] fuel = c.next?.elim [] (p.findFrom · (some c.offset) [] fuel) := by
  refine findFrom_onward hfuel ?_ fun m' hm' _ => ?_
  · rintro _ ⟨⟩
    exact Nat.le_refl _
  · rw [hm] at hm'
    cases hm'
    exact ⟨hempty, rfl⟩

/-- After an empty match the search goes on with the next character. -/
theorem findFrom_empty {m : Found} (hm : p.find? c = some m) (hempty : m.stop.offset = c.offset)
    (hlast : last ≠ some c.offset) (hfuel : c.rest.length ≤ fuel) :
    p.findFrom c last [] (fuel + 1) = m :: c.next?.elim [] (p.findFrom · (some c.offset) [] fuel) := by
  have hstop : m.stop = c := by
    obtain ⟨d, hd, -, hd'⟩ := find?_leads hm
    exact Cursor.Leads.eq_of_offset (hd.trans hd') hempty
  rw [findFrom_here hm fun _ => by rwa [hempty], hstop, findFrom_left_out hm hempty hfuel]

end Regex.Program

/-! ## A search with a grammar, place by place -/

namespace Matcher

variable {m : Matcher} {q : Regex.Program} {levels : Nat} {c d : Cursor} {last : Option Nat} {budget : List Char}

/-- The grammar has a terminal as its start expression and skips nothing. -/
structure IsTerminal (m : Matcher) (q : Regex.Program) : Prop where
  start : m.start = .terminal q
  ignored : m.ignored = []
  skipBlanks : m.skipBlanks = false

theorem IsTerminal.skip_eq (h : m.IsTerminal q) : m.skip levels c = (c, false) := by
  have honce : m.skipOnce levels c = (c, false) := by simp [skipOnce, skipRegions, h.ignored, h.skipBlanks]
  unfold skip skipFrom
  simp [honce]

theorem IsTerminal.round_eq (h : m.IsTerminal q) (c : Cursor) :
    m.round levels c = ⟨c, c, false, ⟨runTerminal q c, false⟩⟩ := by
  rw [round, h.skip_eq, parseSkipping, h.start, parse_eq]
  simp only [Expr.parse, h.skip_eq]

theorem IsTerminal.abandoned_eq (h : m.IsTerminal q) (text : List Char) : (m.findAll levels text).abandoned = [] := by
  rw [findAll_eq]
  refine List.filterMap_eq_nil_iff.2 fun r hr => ?_
  rw [(m.mem_rounds levels hr).2, h.round_eq]
  simp [Round.abandoned?]

/-- The matches from a place on are that of the first round and those of the rounds after it. -/
theorem spansOf_roundsFrom (hb : c.rest.length ≤ budget.length) :
    Round.spansOf last (m.roundsFrom levels c budget) = ((m.round levels c).span? last).toList ++
      (m.round levels c).next?.elim [] fun d =>
        Round.spansOf ((m.round levels c).last last) (m.roundsFrom levels d budget.tail) := by
  cases budget with
  | nil =>
    cases hn : (m.round levels c).next? with
    | none => simp [roundsFrom, Round.spansOf]
    | some d =>
      -- the next round would begin past the end of the text
      obtain ⟨hreach, hlt, -⟩ := m.round_next levels hn
      have hlen := ((m.round_reaches levels c).trans hreach).length_lt
        (Nat.ne_of_gt (Nat.lt_of_le_of_lt (m.round_reaches levels c).le hlt))
      exact absurd (Nat.lt_of_lt_of_le hlen hb) (Nat.not_lt_zero _)
  | cons x budget =>
    rw [roundsFrom, Round.spansOf]
    cases (m.round levels c).next? with
    | none => rfl
    | some d => rfl

theorem IsTerminal.spansOf_of_none (h : m.IsTerminal q) (hb : c.rest.length ≤ budget.length)
    (hq : runTerminal q c = none) : Round.spansOf last (m.roundsFrom levels c budget) =
      c.next?.elim [] fun d => Round.spansOf last (m.roundsFrom levels d budget.tail) := by
  rw [spansOf_roundsFrom hb, h.round_eq, hq]
  rfl

theorem IsTerminal.spansOf_of_lt (h : m.IsTerminal q) (hb : c.rest.length ≤ budget.length)
    (hq : runTerminal q c = some d) (hlt : c.offset < d.offset) :
    Round.spansOf last (m.roundsFrom levels c budget) =
      ⟨c.offset, d.offset⟩ :: Round.spansOf (some d.offset) (m.roundsFrom levels d budget.tail) := by
  rw [spansOf_roundsFrom hb, h.round_eq, hq]
  simp [Round.span?, Round.next?, Round.last, Round.consumes, hlt]

theorem IsTerminal.spansOf_of_eq (h : m.IsTerminal q) (hb : c.rest.length ≤ budget.length)
    (hq : runTerminal q c = some d) (heq : d.offset = c.offset) :
    Round.spansOf last (m.roundsFrom levels c budget) = (if last = some c.offset then [] else [⟨c.offset, c.offset⟩]) ++
      c.next?.elim [] fun d => Round.spansOf last (m.roundsFrom levels d budget.tail) := by
  rw [spansOf_roundsFrom hb, h.round_eq, hq]
  by_cases hl : last = some c.offset <;> simp [Round.span?, Round.next?, Round.last, Round.consumes, heq, hl]

end Matcher

/-! ## Both searches -/

/-- The terminal matches at a place what the pattern matches there, and does not see what stands before it. -/
def Pins (p q : Regex.Program) : Prop := ∀ c d : Cursor, c.alone = d.alone →
  (Matcher.runTerminal q d).map Cursor.alone = ((p.find? c).filter (·.start = c.offset)).map (·.stop.alone)

theorem pins_program {e : Regex} (h : e.looksBack = false) :
    Pins e.program (Regex.concat [.assertion .textStart, e]).program := by
  intro c d hcd
  obtain ⟨hback, hfree⟩ := Regex.program_of_not_looksBack h
  have hsame := Regex.Program.find?_of_not_looksBack hback hfree (d := d.alone) hcd
  have ho : d.alone.offset = c.offset := (Cursor.alone_eq_iff.1 hcd).1.symm
  rw [Matcher.runTerminal, Regex.program_fenced, Regex.Program.find?_fenced _ rfl, Regex.Program.find?_pinned _ rfl, ho]
  cases hc : e.program.find? c with
  | none =>
    cases hd : e.program.find? d.alone with
    | none => rfl
    | some m' => simp [hc, hd] at hsame
  | some m =>
    cases hd : e.program.find? d.alone with
    | none => simp [hc, hd] at hsame
    | some m' =>
      obtain ⟨hstart, hstop⟩ : m.start = m'.start ∧ m.stop.alone = m'.stop.alone := by
        simpa [hc, hd, Regex.Found.alone] using hsame
      simp only [Option.filter_some, hstart]
      split
      · simp [hstop]
      · rfl

section Pins
variable {p q : Regex.Program} {c d : Cursor} (hpins : Pins p q) (hcd : c.alone = d.alone)
include hpins hcd

theorem Pins.here {f : Regex.Found} (hf : p.find? c = some f) (hs : f.start = c.offset) :
    ∃ e, Matcher.runTerminal q d = some e ∧ e.alone = f.stop.alone := by
  have hq := hpins c d hcd
  rw [hf, Option.filter_some, if_pos (by simpa using hs), Option.map_some] at hq
  exact Option.map_eq_some_iff.1 hq

theorem Pins.not_here (h : ∀ f, p.find? c = some f → f.start ≠ c.offset) : Matcher.runTerminal q d = none := by
  have hq := hpins c d hcd
  have hnone : (p.find? c).filter (·.start = c.offset) = none := by
    cases hf : p.find? c with
    | none => rfl
    | some f => simp [Option.filter_some, h f hf]
  rwa [hnone, Option.map_none, Option.map_eq_none_iff] at hq

end Pins

/-- The ends of the last match that two searches keep at a place: neither lies further on, and if one lies at the place
then both do. -/
structure SameEnd (n : Nat) (last last' : Option Nat) : Prop where
  le : ∀ k, last = some k → k ≤ n
  le' : ∀ k, last' = some k → k ≤ n
  iff : last = some n ↔ last' = some n

theorem SameEnd.of_lt {n k : Nat} {last last' : Option Nat} (h : ∀ l, last = some l → l ≤ n)
    (h' : ∀ l, last' = some l → l ≤ n) (hlt : n < k) : SameEnd k last last' where
  le l hl := Nat.le_of_lt (Nat.lt_of_le_of_lt (h l hl) hlt)
  le' l hl := Nat.le_of_lt (Nat.lt_of_le_of_lt (h' l hl) hlt)
  iff := ⟨fun hl => absurd (h k hl) (Nat.not_le.2 hlt), fun hl => absurd (h' k hl) (Nat.not_le.2 hlt)⟩

theorem SameEnd.here (n : Nat) : SameEnd n (some n) (some n) := ⟨by simp, by simp, Iff.rfl⟩

/-- From the same place on both searches report the same matches. -/
theorem Pins.spans_eq {p q : Regex.Program} {m : Matcher} {levels : Nat} (hpins : Pins p q) (hm : m.IsTerminal q)
    (n : Nat) : ∀ {c d : Cursor} {last last' : Option Nat} {fuel : Nat} {budget : List Char}, c.rest.length < n →
      c.alone = d.alone → c.rest.length < fuel → c.rest.length ≤ budget.length → SameEnd c.offset last last' →
        (p.findFrom c last [] fuel).map Regex.Found.span = Round.spansOf last' (m.roundsFrom levels d budget) := by
  induction n with
  | zero => intro c d last last' fuel budget hn; exact absurd hn (Nat.not_lt_zero _)
  | succ n ih =>
    intro c d last last' fuel budget hn hcd hfuel hb hlast
    obtain ⟨hoffset, hrest⟩ := Cursor.alone_eq_iff.1 hcd
    -- what follows where the search goes on with the next character
    have honward : ∀ {last last' : Option Nat} {fuel : Nat}, (∀ l, last = some l → l ≤ c.offset) →
        (∀ l, last' = some l → l ≤ c.offset) → c.rest.length ≤ fuel →
          (c.next?.elim [] (p.findFrom · last [] fuel)).map Regex.Found.span =
            d.next?.elim [] fun e => Round.spansOf last' (m.roundsFrom levels e budget.tail) := by
      intro last last' fuel hl hl' hfuel
      rw [← Cursor.next?_congr hcd]
      cases hnext : c.next? with
      | none => rfl
      | some e =>
        have hlt := Cursor.next?_lt hnext
        have hlen := (Cursor.next?_reaches hnext).length_lt (Nat.ne_of_gt hlt)
        exact ih (by omega) rfl (by omega) (by rw [List.length_tail]; omega) (.of_lt hl hl' hlt)
    rw [hrest] at hb
    by_cases hhere : ∃ f, p.find? c = some f ∧ f.start = c.offset
    · obtain ⟨f, hf, hs⟩ := hhere
      obtain ⟨e, he, hstop⟩ := hpins.here hcd hf hs
      have heo : e.offset = f.stop.offset := (Cursor.alone_eq_iff.1 hstop).1
      obtain ⟨fuel, rfl⟩ := Nat.exists_eq_succ_of_ne_zero (Nat.ne_zero_of_lt hfuel)
      by_cases hlt : c.offset < f.stop.offset
      · -- both report the match and go on where it ends
        have hlen := (Regex.Program.find?_reaches hf).length_lt (Nat.ne_of_gt hlt)
        rw [Regex.Program.findFrom_here hf (by omega), hm.spansOf_of_lt hb he (by omega), List.map_cons, heo]
        congr 1
        · rw [Regex.Found.span, hs, hoffset]
        · rw [← hrest] at hb
          exact ih (by omega) hstop.symm (by omega) (by rw [List.length_tail]; omega) (.here _)
      · -- both report the empty match or leave it out, and go on with the next character
        have hle := (Regex.Program.find?_le hf).2
        have hempty : f.stop.offset = c.offset := by omega
        rw [hm.spansOf_of_eq hb he (by omega), ← hoffset]
        by_cases hl : last = some c.offset
        · rw [hl, if_pos (hlast.iff.1 hl), Regex.Program.findFrom_left_out hf hempty (by omega)]
          exact honward (hl ▸ hlast.le) hlast.le' (by omega)
        · rw [if_neg (hl ∘ hlast.iff.2), Regex.Program.findFrom_empty hf hempty hl (by omega), List.map_cons,
            honward (by simp) hlast.le' (by omega), Regex.Found.span, hs, hempty]
          rfl
    · have hnone : ∀ f, p.find? c = some f → f.start ≠ c.offset := fun f hf hs => hhere ⟨f, hf, hs⟩
      rw [hm.spansOf_of_none hb (hpins.not_here hcd hnone),
        Regex.Program.findFrom_onward (by omega) hlast.le fun f hf hs => absurd hs (hnone f hf)]
      exact honward hlast.le hlast.le' (by omega)

theorem Pins.findAll_eq {p q : Regex.Program} {m : Matcher} (hpins : Pins p q) (hm : m.IsTerminal q) (levels : Nat)
    (text : List Char) : m.findAll levels text = ⟨(p.findAll text).map Regex.Found.span, []⟩ := by
  have hspans : (p.findAll text).map Regex.Found.span = (m.findAll levels text).spans := by
    rw [Matcher.findAll_eq]
    exact hpins.spans_eq hm (text.length + 1) (Nat.lt_succ_self _) rfl (Nat.lt_succ_self _) (Nat.le_refl _)
      ⟨nofun, nofun, Iff.rfl⟩
  rw [hspans, ← hm.abandoned_eq text]

/-! ## Captures -/

theorem Regex.compile_ok_iff {flags : Regex.Flags} {source : String} {p : Regex.Program} :
    Regex.compile flags source = .ok p ↔
      ∃ e, Regex.parse flags source.toList = .ok e ∧ e.fits = true ∧ p = e.program := by
  constructor
  · intro h
    obtain ⟨e, he, h⟩ := bind_ok h
    split at h
    · next hfits =>
      cases h
      exact ⟨e, he, hfits, rfl⟩
    · cases h
  · rintro ⟨e, he, hfits, rfl⟩
    rw [Regex.compile, he]
    exact if_pos hfits

theorem Regex.compile_ok {flags : Regex.Flags} {source : String} {p : Regex.Program}
    (h : Regex.compile flags source = .ok p) : ∃ e, Regex.parse flags source.toList = .ok e ∧ p = e.program := by
  obtain ⟨e, he, -, hp⟩ := Regex.compile_ok_iff.1 h
  exact ⟨e, he, hp⟩

theorem Capture.compile_pattern_ok {source : String} {options : PatternOptions} {f : Finder}
    (h : (Capture.pattern source options).compile = .ok f) :
    ∃ p, Regex.compile options.flags source = .ok p ∧ f = .pattern p := by
  simp only [Capture.compile] at h
  split at h
  · cases h
  · split at h
    · next p hp =>
      cases h
      exact ⟨p, hp, rfl⟩
    · cases h

theorem Grammar.compile_terminal_ok {source : String} {rules : List (String × Expr String String)} {m : Matcher}
    (h : Grammar.compile { start := .terminal source, rules } = .ok m) : ∃ q, Compiles source q ∧ m.IsTerminal q := by
  obtain ⟨start, nodes, ignored, rfl, hstart, -, hignored, -⟩ := compile_ok h
  cases hignored
  cases hstart with
  | terminal hq => exact ⟨_, hq, rfl, rfl, rfl⟩

/-- A pattern that does not look back finds the same matches as a grammar whose start expression it is and that skips
nothing. -/
theorem Capture.terminal_findAll_eq (source : String) (rules : List (String × Expr String String)) (f t : Finder)
    (hf : (Capture.pattern source {}).compile = .ok f)
    (ht : (Capture.grammar { start := .terminal source, rules }).compile = .ok t)
    (hback : ∀ e, Regex.parse {} source.toList = .ok e → e.looksBack = false) (text : List Char) :
    t.findAll text = f.findAll text := by
  obtain ⟨p, hp, rfl⟩ := compile_pattern_ok hf
  obtain ⟨e, he, rfl⟩ := Regex.compile_ok hp
  obtain ⟨m, hm, rfl⟩ := map_ok ht
  obtain ⟨q, hq, hterminal⟩ := Grammar.compile_terminal_ok hm
  obtain ⟨e', he', rfl⟩ := Regex.compile_ok hq
  rw [Grammar.anchoredPattern, String.toList_append, String.toList_append, List.append_assoc] at he'
  have henclosed := Regex.parse_enclosed he he'
  subst henclosed
  exact (pins_program (hback e he)).findAll_eq hterminal Matcher.maxNesting text

/-- Empty matches at both ends of the text, and none where the match between them ends. -/
theorem Capture.accents_findAll_eq : ∃ f t, (Capture.pattern "é*" {}).compile = .ok f ∧
    (Capture.grammar { start := .terminal "é*" }).compile = .ok t ∧
      (∀ e, Regex.parse {} "é*".toList = .ok e → e.looksBack = false) ∧
        f.findAll "xéx".toList = ⟨[⟨0, 0⟩, ⟨1, 3⟩, ⟨4, 4⟩], []⟩ ∧
          t.findAll "xéx".toList = f.findAll "xéx".toList := by
  have hf : (Capture.pattern "é*" {}).compile.toOption.map (·.findAll "xéx".toList) =
      some ⟨[⟨0, 0⟩, ⟨1, 3⟩, ⟨4, 4⟩], []⟩ := by decide +kernel
  have ht : (Capture.grammar { start := .terminal "é*" }).compile.toOption.map (·.kind) = some "grammar" := by
    decide +kernel
  have hback : ∀ e, Regex.parse {} "é*".toList = .ok e → e.looksBack = false := by
    intro e he
    have hlooks : (Regex.parse {} "é*".toList).toOption.map Regex.looksBack = some false := by decide +kernel
    rw [he] at hlooks
    exact Option.some.inj hlooks
  obtain ⟨f, hf, hfound⟩ := toOption_map_ok hf
  obtain ⟨t, ht, -⟩ := toOption_map_ok ht
  exact ⟨f, t, hf, ht, hback, hfound, terminal_findAll_eq "é*" [] f t hf ht hback _⟩

/-- A pattern that looks back may match at more places as a grammar. -/
example : (Capture.pattern "^" {}).compile.toOption.map (·.findAll ['a']) = some ⟨[⟨0, 0⟩], []⟩ ∧
    (Capture.grammar { start := .terminal "^" }).compile.toOption.map (·.findAll ['a']) =
      some ⟨[⟨0, 0⟩, ⟨1, 1⟩], []⟩ := by
  decide +kernel

end PatternLint
