import PatternLint.Proofs.Regex.Matches
/-!
# All occurrences of an expression

A search for all matches steps over what it found, and may step over the beginning of another match with it. For an
expression whose matches stand apart (`Apart`) it cannot. Main statement: for such an expression the search gives a
match at every place from which the expression matches, and no others (`Apart.mem_findAll_iff`).
-/
namespace PatternLint.Regex

variable {r : Regex} {c d e : Cursor} {text : List Char} {m : Found}

theorem MatchesFrom.leads (h : r.MatchesFrom c d) : c.Leads d := by
  obtain ⟨n, h⟩ := accepts_program_iff.2 h
  exact h.leads

/-- What is found is a match of the expression. -/
theorem find?_matches (h : r.program.find? c = some m) :
    ∃ s, c.Leads s ∧ s.offset = m.start ∧ r.MatchesFrom s m.stop := by
  obtain ⟨s, hs, hstart, haccepts⟩ := Program.find?_accepts h
  exact ⟨s, hs, hstart, accepts_program_iff.1 haccepts⟩

/-- The matches of the expression are not empty, end at one place only, and none begins within another. -/
structure Apart (r : Regex) : Prop where
  free : r.startsText = false
  lt : ∀ {c d}, r.MatchesFrom c d → c.offset < d.offset
  eq : ∀ {c d d'}, r.MatchesFrom c d → r.MatchesFrom c d' → d = d'
  le : ∀ {c d e f}, r.MatchesFrom c d → c.Leads e → c.offset < e.offset → r.MatchesFrom e f → d.offset ≤ e.offset

namespace Apart

/-- It is enough that a match reads a word within which no other match begins. -/
theorem of_reads (hfree : r.startsText = false)
    (hword : ∀ {c d}, r.MatchesFrom c d → ∃ word, word ≠ [] ∧ c.Reads word d ∧
      ∀ {u v e f}, word = u ++ v → u ≠ [] → v ≠ [] → c.Reads u e → ¬r.MatchesFrom e f)
    (heq : ∀ {c d d'}, r.MatchesFrom c d → r.MatchesFrom c d' → d = d') : r.Apart where
  free := hfree
  lt h := by
    obtain ⟨word, hne, hd, -⟩ := hword h
    have hlength : byteLength word ≠ 0 := fun hzero => hne (byteLength_eq_zero.1 hzero)
    have hoffset := hd.offset
    omega
  eq := heq
  le {c d e f} h hce hlt hf := by
    obtain ⟨word, -, hd, hinner⟩ := hword h
    by_contra hgt
    have hed : e.Leads d := hce.leads_of_le hd.leads (by omega)
    obtain ⟨u, hu⟩ := Cursor.leads_iff_reads.1 hce
    obtain ⟨v, hv⟩ := Cursor.leads_iff_reads.1 hed
    refine hinner (hd.word_eq (hu.trans hv)) ?_ ?_ hu hf
    · rintro rfl
      obtain rfl := Cursor.reads_nil.1 hu
      omega
    · rintro rfl
      obtain rfl := Cursor.reads_nil.1 hv
      omega

variable (h : r.Apart)
include h

/-- The next match from a place on, up to which every match further on is left to be found. -/
theorem exists_find? (hce : c.Leads e) (he : r.MatchesFrom e d) :
    ∃ m, r.program.find? c = some m ∧ (m = ⟨e.offset, d⟩ ∨ m.stop.Leads e) := by
  obtain ⟨m, hm, hle⟩ := Program.find?_leftmost h.free hce (accepts_program_iff.2 he)
  obtain ⟨s, hcs, hstart, hs⟩ := find?_matches hm
  refine ⟨m, hm, ?_⟩
  have hse : s.Leads e := hcs.leads_of_le hce (by omega)
  rcases Nat.lt_or_ge s.offset e.offset with hlt | hge
  · exact .inr (hs.leads.leads_of_le hse (h.le hs hse hlt he))
  · obtain rfl := hse.eq_of_offset (by omega)
    obtain ⟨start, stop⟩ := m
    obtain rfl := h.eq hs he
    exact .inl (by rw [hstart])

theorem mem_findFrom (he : r.MatchesFrom e d) : ∀ (fuel : Nat) {c : Cursor} {last : Option Nat},
    c.rest.length < fuel → c.Leads e → ⟨e.offset, d⟩ ∈ r.program.findFrom c last [] fuel := by
  intro fuel
  induction fuel with
  | zero => intro c last hfuel; omega
  | succ fuel ih =>
    intro c last hfuel hce
    obtain ⟨m, hm, hcases⟩ := h.exists_find? hce he
    obtain ⟨s, hcs, hstart, hs⟩ := find?_matches hm
    have hlt : m.start < m.stop.offset := by
      rw [← hstart]
      exact h.lt hs
    have hnext : r.program.findNext? c last = some m := by
      simp [Program.findNext?, hm, Nat.ne_of_lt hlt]
    rw [Program.findFrom_succ, hnext]
    rcases hcases with rfl | hstop
    · exact List.mem_cons_self
    · refine List.mem_cons_of_mem _ (ih ?_ hstop)
      have hreaches : c.Reaches m.stop := Program.find?_reaches hm
      have hless := hreaches.length_lt (by have := (Program.find?_le hm).1; omega)
      omega

/-- A search for all matches gives a match at every place from which the expression matches. -/
theorem mem_findAll_iff : m ∈ r.program.findAll text ↔
    ∃ c, (Cursor.start text).Leads c ∧ m.start = c.offset ∧ r.MatchesFrom c m.stop := by
  constructor
  · intro hm
    obtain ⟨c, hc, hfind⟩ := Program.mem_findFrom _ hm
    obtain ⟨s, hcs, hstart, hs⟩ := find?_matches hfind
    exact ⟨s, hc.trans hcs, hstart.symm, hs⟩
  · rintro ⟨c, hc, hstart, hs⟩
    obtain ⟨start, stop⟩ := m
    obtain rfl : start = c.offset := hstart
    exact h.mem_findFrom hs _ (Nat.lt_succ_self _) hc

end Apart

end PatternLint.Regex
