import PatternLint.Proofs.Regex.Fenced
/-!
# The code of an expression

The code of an expression has `size` instructions wherever it stands (`length_code`), and it is the same one address
further on but for the targets of its jumps (`code_succ`). The normal form of a sequence has the code of its parts one
after the other (`code_concat`). So an expression behind the assertion that the text starts has the program of the
expression, fenced (`program_fenced`).
-/
namespace PatternLint.Regex

namespace Instr

variable {body : Nat → List Instr} {size : Nat}

theorem length_copies (h : ∀ a, (body a).length = size) (n : Nat) : ∀ a, (copies body size n a).length = n * size := by
  induction n with
  | zero => intro a; simp [copies]
  | succ n ih => intro a; rw [copies, List.length_append, h, ih, Nat.succ_mul, Nat.add_comm]

theorem length_options (h : ∀ a, (body a).length = size) (greedy : Bool) (stop n : Nat) :
    ∀ a, (options body size greedy stop n a).length = n * (size + 1) := by
  induction n with
  | zero => intro a; simp [options]
  | succ n ih =>
    intro a
    rw [options, List.length_cons, List.length_append, h, ih, Nat.succ_mul]
    omega

@[simp]
theorem forkBy_moved (greedy : Bool) (onward leave : Nat) :
    (forkBy greedy onward leave).moved = forkBy greedy (onward + 1) (leave + 1) := by
  cases greedy <;> rfl

theorem copies_succ (h : ∀ a, body (a + 1) = (body a).map moved) (n : Nat) :
    ∀ a, copies body size n (a + 1) = (copies body size n a).map moved := by
  induction n with
  | zero => intro a; rfl
  | succ n ih => intro a; rw [copies, copies, List.map_append, ← h, ← ih, Nat.add_right_comm]

theorem options_succ (h : ∀ a, body (a + 1) = (body a).map moved) (greedy : Bool) (stop n : Nat) :
    ∀ a, options body size greedy (stop + 1) n (a + 1) = (options body size greedy stop n a).map moved := by
  induction n with
  | zero => intro a; rfl
  | succ n ih =>
    intro a
    rw [options, options, List.map_cons, List.map_append, forkBy_moved, ← h, ← ih, Nat.add_right_comm (a + 1)]

end Instr

open Instr

theorem length_code (r : Regex) : ∀ address, (r.code address).length = r.size := by
  induction r with
  | empty | set | assertion => intro address; rfl
  | literal text => intro address; simp [code, size]
  | seq a b iha ihb => intro address; rw [code, List.length_append, iha, ihb, size]
  | alt a b iha ihb =>
    intro address
    simp only [code, size, List.length_cons, List.length_append, iha, ihb]
    omega
  | times r min max greedy ih =>
    intro address
    cases max with
    | some max => rw [code, size, List.length_append, length_copies ih, length_options ih]
    | none =>
      cases min with
      | zero => simp [code, size, ih]
      | succ min => simp [code, size, length_copies ih]
  | group index r ih => exact ih

theorem code_succ (r : Regex) : ∀ address, r.code (address + 1) = (r.code address).map moved := by
  induction r with
  | empty | set | assertion => intro address; rfl
  | literal text => intro address; simp [code, moved]
  | seq a b iha ihb => intro address; rw [code, code, List.map_append, ← iha, ← ihb, Nat.add_right_comm]
  | alt a b iha ihb =>
    intro address
    have hsecond : address + 1 + a.size + 2 = address + a.size + 2 + 1 := by omega
    simp only [code, List.map_cons, List.map_append, moved, ← iha, ← ihb, hsecond, Nat.add_right_comm _ 1 b.size]
  | times r min max greedy ih =>
    intro address
    cases max with
    | some max =>
      simp only [code, List.map_append, ← copies_succ ih, ← options_succ ih, Nat.add_right_comm _ 1]
    | none =>
      cases min with
      | zero =>
        have hleave : address + 1 + r.size + 2 = address + r.size + 2 + 1 := by omega
        simp only [code, List.map_cons, List.map_append, List.map_nil, forkBy_moved, ← ih, hleave]
      | succ min =>
        simp only [code, List.map_cons, List.map_append, List.map_nil, forkBy_moved, ← copies_succ ih,
          Nat.add_right_comm address 1, Nat.add_right_comm _ 1 r.size]
  | group index r ih => exact ih

/-! ## Sequences -/

/-- The code of expressions one after the other. -/
def codes : List Regex → Nat → List Instr
  | [], _ => []
  | r :: rs, address => r.code address ++ codes rs (address + r.size)

theorem codes_append (rs ss : List Regex) : ∀ address,
    codes (rs ++ ss) address = codes rs address ++ codes ss (address + (codes rs address).length) := by
  induction rs with
  | nil => intro address; simp [codes]
  | cons r rs ih =>
    intro address
    rw [List.cons_append, codes, codes, ih, List.append_assoc, List.length_append, length_code, Nat.add_assoc]

theorem codes_parts (r : Regex) : ∀ address, codes r.parts address = r.code address := by
  induction r with
  | empty => intro address; rfl
  | seq a b iha ihb => intro address; rw [parts, codes_append, iha, ihb, length_code, code]
  | _ => intro address; simp [parts, codes]

theorem codes_prepend (r : Regex) (rs : List Regex) (address : Nat) :
    codes (prepend r rs) address = codes (r :: rs) address := by
  unfold prepend
  split
  · simp [codes, code, size, Nat.add_assoc]
  · rfl

theorem codes_foldr_prepend (rs : List Regex) : ∀ address, codes (rs.foldr prepend []) address = codes rs address := by
  induction rs with
  | nil => intro address; rfl
  | cons r rs ih => intro address; rw [List.foldr_cons, codes_prepend, codes, ih, codes]

theorem code_chain (rs : List Regex) : ∀ address, (chain rs).code address = codes rs address := by
  induction rs with
  | nil => intro address; rfl
  | cons r rs ih =>
    intro address
    cases rs with
    | nil => simp [chain, codes]
    | cons s rs =>
      show (seq r (chain (s :: rs))).code address = _
      rw [code, ih]
      rfl

theorem codes_flatMap_parts (rs : List Regex) : ∀ address, codes (rs.flatMap parts) address = codes rs address := by
  induction rs with
  | nil => intro address; rfl
  | cons r rs ih => intro address; rw [List.flatMap_cons, codes_append, codes_parts, length_code, ih, codes]

/-- The normal form of a sequence has the code of the sequence. -/
theorem code_concat (rs : List Regex) (address : Nat) : (concat rs).code address = codes rs address := by
  rw [concat, code_chain, codes_foldr_prepend, codes_flatMap_parts]

theorem startsText_concat (rs : List Regex) : (concat (assertion .textStart :: rs)).startsText = true := by
  have hfold : ((assertion .textStart :: rs).flatMap parts).foldr prepend [] =
      assertion .textStart :: (rs.flatMap parts).foldr prepend [] := rfl
  rw [concat, hfold]
  cases (rs.flatMap parts).foldr prepend [] with
  | nil => rfl
  | cons s ss => rfl

/-- An expression behind the assertion that the text starts has its program fenced. -/
theorem program_fenced (r : Regex) : (concat [assertion .textStart, r]).program = r.program.fenced := by
  have hcode : (concat [assertion .textStart, r]).code 0 = .assertion .textStart :: (r.code 0).map moved := by
    rw [code_concat, ← code_succ]
    simp [codes, code, size]
  simp [program, Program.fenced, hcode, startsText_concat, moved]

/-! ## Assertions that look back -/

/-- Whether the assertion depends on what stands before the place. So does the end of a line where a line may end with
two characters: it never holds between them. -/
def Assertion.looksBack : Assertion → Bool
  | textStart | lineStart _ | lineEnd true => true
  | textEnd | lineEnd false => false
  | word .stopHalf _ => false
  | word _ _ => true

/-- Whether an assertion of the expression looks back. -/
def looksBack : Regex → Bool
  | assertion a => a.looksBack
  | seq a b | alt a b => a.looksBack || b.looksBack
  | times r _ _ _ | group _ r => r.looksBack
  | _ => false

theorem Assertion.looksBack_iff (a : Assertion) : a.looksBack = true ↔ a.LooksBack := by
  have hword : ∀ ascii, isWord ascii (some 'a') = true := by decide +kernel
  have hnone : ∀ ascii, isWord ascii none = false := fun _ => rfl
  have hblind : (∀ before before' after, a.holds before after = a.holds before' after) → ¬a.LooksBack := by
    rintro h ⟨before, before', after, hne⟩
    exact hne (h before before' after)
  cases a with
  | textStart => exact ⟨fun _ => ⟨none, some 'a', none, by decide⟩, fun _ => rfl⟩
  | textEnd => exact ⟨nofun, fun h => absurd h (hblind fun _ _ _ => rfl)⟩
  | lineStart crlf => exact ⟨fun _ => ⟨none, some 'a', none, by cases crlf <;> decide⟩, fun _ => rfl⟩
  | lineEnd crlf =>
    cases crlf with
    | true => exact ⟨fun _ => ⟨none, some '\r', some '\n', by decide⟩, fun _ => rfl⟩
    | false => exact ⟨nofun, fun h => absurd h (hblind fun _ _ _ => rfl)⟩
  | word edge ascii =>
    cases edge with
    | stopHalf => exact ⟨nofun, fun h => absurd h (hblind fun _ _ _ => rfl)⟩
    | start => exact ⟨fun _ => ⟨none, some 'a', some 'a', by simp [holds, WordEdge.holds, hword, hnone]⟩, fun _ => rfl⟩
    | boundary | noBoundary | stop | startHalf =>
      exact ⟨fun _ => ⟨none, some 'a', none, by simp [holds, WordEdge.holds, hword, hnone]⟩, fun _ => rfl⟩

theorem looksBack_of_mem_copies {body : Nat → List Instr} {P : Prop} {a : Assertion} {size : Nat}
    (h : ∀ address, .assertion a ∈ body address → P) (n : Nat) :
    ∀ address, .assertion a ∈ copies body size n address → P := by
  induction n with
  | zero => intro address ha; cases ha
  | succ n ih => intro address ha; exact (List.mem_append.1 ha).elim (h _) (ih _)

theorem looksBack_of_mem_options {body : Nat → List Instr} {P : Prop} {a : Assertion} {size stop : Nat} {greedy : Bool}
    (h : ∀ address, .assertion a ∈ body address → P) (n : Nat) :
    ∀ address, .assertion a ∈ options body size greedy stop n address → P := by
  induction n with
  | zero => intro address ha; cases ha
  | succ n ih =>
    intro address ha
    rcases List.mem_cons.1 ha with ha | ha
    · cases greedy <;> cases ha
    · exact (List.mem_append.1 ha).elim (h _) (ih _)

/-- The code of an expression has the assertions of the expression only. -/
theorem looksBack_of_mem_code {a : Assertion} (ha : a.looksBack = true) (r : Regex) :
    ∀ address, .assertion a ∈ r.code address → r.looksBack = true := by
  have hfork : ∀ (greedy : Bool) (x y : Nat), (.assertion a : Instr) ≠ forkBy greedy x y := by
    intro greedy x y h
    cases greedy <;> cases h
  induction r with
  | empty => intro address h; cases h
  | literal text => intro address h; simp [code] at h
  | set s narrow => intro address h; simp [code] at h
  | assertion b =>
    intro address h
    obtain rfl : a = b := by simpa [code] using h
    exact ha
  | seq r s ihr ihs =>
    intro address h
    rw [looksBack, Bool.or_eq_true]
    exact (List.mem_append.1 h).imp (ihr _) (ihs _)
  | alt r s ihr ihs =>
    intro address h
    rw [looksBack, Bool.or_eq_true]
    simp only [code, List.mem_cons, List.mem_append, reduceCtorEq, false_or] at h
    exact h.imp (ihr _) (ihs _)
  | times r min max greedy ih =>
    intro address h
    rw [looksBack]
    cases max with
    | some max =>
      rw [code] at h
      exact (List.mem_append.1 h).elim (looksBack_of_mem_copies ih _ _) (looksBack_of_mem_options ih _ _)
    | none =>
      cases min with
      | zero =>
        simp only [code, List.mem_cons, List.mem_append, List.not_mem_nil, or_false, hfork, false_or] at h
        exact ih _ h
      | succ min =>
        simp only [code, List.mem_cons, List.mem_append, List.not_mem_nil, or_false, hfork] at h
        exact looksBack_of_mem_copies ih _ _ h
  | group index r ih => exact ih

theorem looksBack_of_startsText (r : Regex) (h : r.startsText = true) : r.looksBack = true := by
  induction r with
  | empty | literal | set => cases h
  | assertion a => cases a <;> first | rfl | cases h
  | seq a b iha ihb =>
    rw [startsText, Bool.or_eq_true, Bool.and_eq_true] at h
    rw [looksBack, Bool.or_eq_true]
    exact h.imp iha fun h => ihb h.2
  | alt a b iha ihb =>
    rw [startsText, Bool.and_eq_true] at h
    rw [looksBack, iha h.1, Bool.true_or]
  | times r min max greedy ih =>
    rw [startsText, Bool.and_eq_true] at h
    exact ih h.2
  | group index r ih => exact ih h

/-- The program of an expression without assertions that look back has none, and is searched for everywhere. -/
theorem program_of_not_looksBack {r : Regex} (h : r.looksBack = false) :
    ¬r.program.LooksBack ∧ r.program.anchored = false := by
  constructor
  · rintro ⟨a, ha, hback⟩
    have hmem : .assertion a ∈ r.code 0 := by simpa [program] using ha
    rw [looksBack_of_mem_code ((Assertion.looksBack_iff a).2 hback) r 0 hmem] at h
    cases h
  · rw [← Bool.not_eq_true]
    intro hs
    rw [looksBack_of_startsText r hs] at h
    cases h

end PatternLint.Regex
