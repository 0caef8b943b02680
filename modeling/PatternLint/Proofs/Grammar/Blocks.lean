import PatternLint.Proofs.Grammar.Leftmost
import PatternLint.Proofs.Grammar.Calls
/-!
# Balanced blocks

A rule that is defined as a balanced block calls itself for each block inside it, and goes over everything else
character by character. `Block.Scan` is how one would find the end of a block by hand: go over the text once and count
the words that open and close a block. Main statement: `Grammar.nested_scan`. If neither word begins with the other,
the rule succeeds where the scan does, with the same end, whatever is skipped in between.
-/
namespace PatternLint

namespace Block

section Scan
variable (skip : Cursor → Cursor) (opening closing : List Char)

/-- Going over the text with so many blocks open, until the last of them is closed or the text ends. -/
inductive Count : Nat → Cursor → Option Cursor → Prop
  | closed {c : Cursor} : Count 0 c (some c)
  | opens {depth : Nat} {c d : Cursor} {r : Option Cursor} : (skip c).strip? opening = some d →
      Count (depth + 2) d r → Count (depth + 1) c r
  | closes {depth : Nat} {c d : Cursor} {r : Option Cursor} : (skip c).strip? closing = some d →
      Count depth d r → Count (depth + 1) c r
  | passes {depth : Nat} {c d : Cursor} {r : Option Cursor} : (skip c).strip? opening = none →
      (skip c).strip? closing = none → (skip c).next? = some d → Count (depth + 1) d r → Count (depth + 1) c r
  | ends {depth : Nat} {c : Cursor} : (skip c).strip? opening = none → (skip c).strip? closing = none →
      (skip c).next? = none → Count (depth + 1) c none

/-- The scan for the end of a block: the block has to be opened first. -/
inductive Scan : Cursor → Option Cursor → Prop
  | opened {c d : Cursor} {r : Option Cursor} : (skip c).strip? opening = some d → Count skip opening closing 1 d r →
      Scan c r
  | missing {c : Cursor} : (skip c).strip? opening = none → Scan c none

end Scan

end Block

/-- Two words stand at the same place only if one of them begins with the other. -/
theorem Cursor.prefix_of_strip? {c d e : Cursor} {v w : List Char} (hv : c.strip? v = some d)
    (hw : c.strip? w = some e) : v <+: w ∨ w <+: v := by
  have hstands : ∀ {u : List Char} {f : Cursor}, c.strip? u = some f → u <+: c.rest := by
    intro u f hu
    have h := c.strip?_offset u
    rw [hu, Option.map_some] at h
    by_contra hnot
    rw [if_neg (fun hp => hnot (List.isPrefixOf_iff_prefix.1 hp))] at h
    cases h
  exact List.prefix_or_prefix_of_prefix (hstands hv) (hstands hw)

theorem Cursor.strip?_lt {c d : Cursor} {word : List Char} (hword : word ≠ []) (h : c.strip? word = some d) :
    c.offset < d.offset := by
  have ho := c.strip?_offset word
  have hlen : byteLength word ≠ 0 := fun h0 => hword (byteLength_eq_zero.1 h0)
  rw [h, Option.map_some] at ho
  split at ho
  · have := Option.some.inj ho
    omega
  · cases ho

namespace Block

section Unique
variable {skip : Cursor → Cursor} {opening closing : List Char}
  (hopening : ¬opening <+: closing) (hclosing : ¬closing <+: opening)
include hopening hclosing

theorem not_both {c d e : Cursor} (h : c.strip? opening = some d) (h' : c.strip? closing = some e) : False :=
  (Cursor.prefix_of_strip? h h').elim hopening hclosing

theorem Count.unique {depth : Nat} {c : Cursor} {r : Option Cursor} (h : Count skip opening closing depth c r) :
    ∀ {r' : Option Cursor}, Count skip opening closing depth c r' → r = r' := by
  induction h with
  | closed => intro r' h'; cases h'; rfl
  | opens hd _ ih =>
    intro r' h'
    cases h' with
    | opens hd' hr =>
      cases hd.symm.trans hd'
      exact ih hr
    | closes hd' _ => exact (not_both hopening hclosing hd hd').elim
    | passes hnone _ _ _ | ends hnone _ _ => cases hd.symm.trans hnone
  | closes hd _ ih =>
    intro r' h'
    cases h' with
    | opens hd' _ => exact (not_both hopening hclosing hd' hd).elim
    | closes hd' hr =>
      cases hd.symm.trans hd'
      exact ih hr
    | passes _ hnone _ _ | ends _ hnone _ => cases hd.symm.trans hnone
  | passes ho hc hd _ ih =>
    intro r' h'
    cases h' with
    | opens hd' _ => cases ho.symm.trans hd'
    | closes hd' _ => cases hc.symm.trans hd'
    | passes _ _ hd' hr =>
      cases hd.symm.trans hd'
      exact ih hr
    | ends _ _ hd' => cases hd.symm.trans hd'
  | ends ho hc hd =>
    intro r' h'
    cases h' with
    | opens hd' _ => cases ho.symm.trans hd'
    | closes hd' _ => cases hc.symm.trans hd'
    | passes _ _ hd' _ => cases hd.symm.trans hd'
    | ends _ _ _ => rfl

theorem Scan.unique {c : Cursor} {r r' : Option Cursor} (h : Scan skip opening closing c r)
    (h' : Scan skip opening closing c r') : r = r' := by
  cases h with
  | opened hd hr =>
    cases h' with
    | opened hd' hr' =>
      cases hd.symm.trans hd'
      exact hr.unique hopening hclosing hr'
    | missing hd' => cases hd.symm.trans hd'
  | missing hd =>
    cases h' with
    | opened hd' _ => cases hd.symm.trans hd'
    | missing _ => rfl

end Unique

end Block

/-! ## A block as an expression -/

namespace Expr

variable {τ ρ : Type}

/-- What is repeated inside a block: a block, or a character at which neither word begins. -/
def blockRound (r : ρ) (opening closing : List Char) : Expr τ ρ :=
  choice (rule r) (seq (notAhead (literal opening)) (seq (notAhead (literal closing)) any))

/-- The body of a rule that stands for a block. -/
def blockBody (r : ρ) (opening closing : List Char) : Expr τ ρ :=
  seq (literal opening) (seq (rounds (blockRound r opening closing) 0 none) (literal closing))

theorem Alike.eq_blockBody {τ' ρ' : Type} {T : τ → τ' → Prop} {R : ρ → ρ' → Prop} {r : ρ} {opening closing : List Char}
    {node : Expr τ' ρ'} (h : (blockBody r opening closing).Alike T R node) :
    ∃ r', R r r' ∧ node = blockBody r' opening closing := by
  cases h with
  | seq hopen h =>
    cases hopen
    cases h with
    | seq hrounds hclose =>
      cases hclose
      cases hrounds with
      | rounds _ _ hround =>
        cases hround with
        | choice hrule hfiller =>
          cases hrule with
          | rule hr =>
            cases hfiller with
            | seq hno h =>
              cases hno with
              | notAhead hno =>
                cases hno
                cases h with
                | seq hno hany =>
                  cases hany
                  cases hno with
                  | notAhead hno =>
                    cases hno
                    exact ⟨_, hr, rfl⟩

section Parse
variable {skip : Cursor → Cursor} {opening closing : List Char}

/-- The attempt at `c` goes as the scan goes. If it succeeds, the scan comes from the opening word to the same end with
one block less open. If it fails after the opening word, so does the scan. -/
def Follows (skip : Cursor → Cursor) (opening closing : List Char) (c : Cursor) (a : Attempt) : Prop :=
  (∀ f, a.result = some f → c.offset < f.offset ∧ ∃ d, (skip c).strip? opening = some d ∧ ∀ depth r,
    Block.Count skip opening closing depth f r → Block.Count skip opening closing (depth + 1) d r) ∧
  (a.result = none → ∀ d, (skip c).strip? opening = some d → ∀ depth,
    Block.Count skip opening closing (depth + 1) d none)

variable {run : τ → Cursor → Option Cursor} {lead : Cursor → Cursor × Bool} {call : ρ → Cursor → Attempt} {i : ρ}
  (hskip : ∀ c, (lead c).1 = skip c)
include hskip

theorem parse_filler (c : Cursor) :
    ((seq (notAhead (literal opening)) (seq (notAhead (literal closing)) any)).parse run lead call c).result =
      if ((skip c).strip? opening).isSome ∨ ((skip c).strip? closing).isSome then none else (skip c).next? := by
  rw [← hskip]
  cases ho : (lead c).1.strip? opening with
  | some d => simp [parse, ho]
  | none => cases hc : (lead c).1.strip? closing <;> simp [parse, ho, hc]

/-- Where no round can be made and the block is not closed either, the scan fails. -/
theorem blockRound_none {c : Cursor} (hcall : (call i c).cutOff = false → Follows skip opening closing c (call i c))
    (hcut : ((blockRound i opening closing).parse run lead call c).cutOff = false)
    (h : ((blockRound i opening closing).parse run lead call c).result = none)
    (hclose : (skip c).strip? closing = none) (depth : Nat) : Block.Count skip opening closing (depth + 1) c none := by
  rcases parse_choice (rule i) _ c with ⟨f, hf, heq⟩ | ⟨hnone, heq⟩
  · rw [blockRound, heq, hf] at h
    cases h
  · rw [blockRound, heq, Attempt.after_cutOff, Bool.or_eq_false_iff] at hcut
    rw [blockRound, heq, Attempt.after_result, parse_filler hskip] at h
    cases hopen : (skip c).strip? opening with
    | some d => exact .opens hopen ((hcall hcut.1).2 hnone d hopen (depth + 1))
    | none => exact .ends hopen hclose (by simpa [hopen, hclose] using h)

variable (hreach : ∀ c : Cursor, c.Reaches (skip c))
include hreach

/-- A round inside a block is a part of the scan. -/
theorem blockRound_some {c e : Cursor} (hcall : (call i c).cutOff = false → Follows skip opening closing c (call i c))
    (hcut : ((blockRound i opening closing).parse run lead call c).cutOff = false)
    (h : ((blockRound i opening closing).parse run lead call c).result = some e) :
    c.offset < e.offset ∧ ∀ depth r, Block.Count skip opening closing (depth + 1) e r →
      Block.Count skip opening closing (depth + 1) c r := by
  rcases parse_choice (rule i) _ c with ⟨f, -, heq⟩ | ⟨-, heq⟩
  · rw [blockRound, heq] at hcut h
    obtain ⟨hlt, d, hd, hcount⟩ := (hcall hcut).1 e h
    exact ⟨hlt, fun depth r hr => .opens hd (hcount (depth + 1) r hr)⟩
  · rw [blockRound, heq, Attempt.after_result, parse_filler hskip] at h
    split at h
    · cases h
    · next hno =>
      obtain ⟨hopen, hclose⟩ := not_or.1 hno
      refine ⟨Nat.lt_of_le_of_lt (hreach c).le (Cursor.next?_lt h), fun depth r hr => ?_⟩
      exact .passes (Option.not_isSome_iff_eq_none.1 hopen) (Option.not_isSome_iff_eq_none.1 hclose) h hr

/-- The rounds inside a block are a part of the scan and come to a place where no further round can be made. -/
theorem blockRounds_stop (hcall : ∀ c, (call i c).cutOff = false → Follows skip opening closing c (call i c))
    {count : Nat} {c : Cursor} {a : Attempt}
    (h : Repeats ((blockRound i opening closing).parse run lead call) 0 none count c a) (hcut : a.cutOff = false) :
    ∃ e, a.result = some e ∧ (blockRound i opening closing).parse run lead call e = ⟨none, false⟩ ∧
      ∀ depth r, Block.Count skip opening closing (depth + 1) e r →
        Block.Count skip opening closing (depth + 1) c r := by
  induction h with
  | full hfull => cases hfull
  | @stop count c cut _ hp =>
    cases hcut
    exact ⟨c, rfl, hp, fun _ _ => id⟩
  | @idle count c d cut _ hp ho =>
    cases hcut
    have hlt := (blockRound_some hskip hreach (hcall c) (by rw [hp]) (by rw [hp])).1
    omega
  | @more count c d cut a _ hp _ _ ih =>
    obtain ⟨rfl, hcut⟩ := Bool.or_eq_false_iff.1 hcut
    obtain ⟨e, he, hstop, hcount⟩ := ih hcut
    have hround := (blockRound_some hskip hreach (hcall c) (by rw [hp]) (by rw [hp])).2
    exact ⟨e, he, hstop, fun depth r hr => hround depth r (hcount depth r hr)⟩

/-- A block goes as the scan goes if the blocks inside it do. -/
theorem blockBody_follows (hf : ∀ (e : Expr τ ρ) c, (e.parse run lead call c).Forward c) (hopening : opening ≠ [])
    (hcall : ∀ c, (call i c).cutOff = false → Follows skip opening closing c (call i c)) (c : Cursor)
    (hcut : ((blockBody i opening closing).parse run lead call c).cutOff = false) :
    Follows skip opening closing c ((blockBody i opening closing).parse run lead call c) := by
  rcases parse_seq (literal opening) (seq (rounds (blockRound i opening closing) 0 none) (literal closing)) c with
    ⟨hmissing, heq⟩ | ⟨d, hd, heq⟩
  · rw [blockBody, heq]
    refine ⟨fun f hf => absurd hf (by simp [hmissing]), fun _ d hd => ?_⟩
    rw [← hskip] at hd
    cases hmissing.symm.trans hd
  · have hopen : (skip c).strip? opening = some d := by
      rw [← hskip]
      exact hd
    rw [blockBody, heq, Attempt.after_cutOff, Bool.or_eq_false_iff] at hcut
    have hforward := hf (seq (rounds (blockRound i opening closing) 0 none) (literal closing)) d
    have hrepeat := parse_rounds (hf (blockRound i opening closing)) 0 none d
    rw [blockBody, heq]
    rcases parse_seq (rounds (blockRound i opening closing) 0 none) (literal closing) d with
      ⟨hnone, heq'⟩ | ⟨e, he, heq'⟩
    · -- no number of rounds is too small
      rw [heq'] at hcut
      obtain ⟨e, he, -⟩ := blockRounds_stop hskip hreach hcall hrepeat hcut.2
      cases hnone.symm.trans he
    · rw [heq'] at hcut hforward ⊢
      have hrounds := (Bool.or_eq_false_iff.1 hcut.2).1
      obtain ⟨e', he', hstop, hcount⟩ := blockRounds_stop hskip hreach hcall hrepeat hrounds
      cases he.symm.trans he'
      have hclosing : ((literal closing).parse run lead call e).result = (skip e).strip? closing := by
        rw [← hskip]
        rfl
      refine ⟨fun f hf => ⟨?_, d, hopen, fun depth r hr => hcount depth r (.closes (hclosing ▸ hf) hr)⟩,
        fun hnone d' hd' depth => ?_⟩
      · have h₁ := (hreach c).le
        have h₂ := Cursor.strip?_lt hopening hopen
        have h₃ := (hforward f hf).le
        omega
      · cases hopen.symm.trans hd'
        exact hcount depth none
          (blockRound_none hskip (hcall e) (by rw [hstop]) (by rw [hstop]) (hclosing ▸ hnone) depth)

end Parse

end Expr

/-! ## The rule of a block -/

namespace Matcher

variable {m : Matcher} {i : Fin m.size} {opening closing : List Char}

/-- By the levels that are left. -/
theorem call_follows (hi : m.rules.get i = .blockBody i opening closing) (hopening : opening ≠ [])
    (limit levels : Nat) : ∀ c, (m.call (m.lead true limit) levels i c).cutOff = false →
      Expr.Follows (fun c => (m.skip limit c).1) opening closing c (m.call (m.lead true limit) levels i c) := by
  induction levels with
  | zero => intro c hcut; cases hcut
  | succ levels ih =>
    intro c hcut
    have hf : ∀ (e : Node m.size) c,
        (e.parse runTerminal (m.lead true limit) (m.call (m.lead true limit) levels) c).Forward c := by
      intro e c
      rw [← parse_eq]
      exact m.parse_forward (m.lead_reaches true limit) levels e c
    have hbody : m.call (m.lead true limit) (levels + 1) i c =
        (Expr.blockBody i opening closing).parse runTerminal (m.lead true limit)
          (m.call (m.lead true limit) levels) c := by
      rw [← parse_eq, ← hi]
      rfl
    rw [hbody] at hcut ⊢
    exact Expr.blockBody_follows (fun _ => rfl) (m.skip_reaches limit) hf hopening ih c hcut

/-- The rule of a block goes as the scan goes. -/
theorem parse_scan (hi : m.rules.get i = .blockBody i opening closing) (hopening : opening ≠ []) (limit levels : Nat)
    {c : Cursor} (hcut : (m.parse (m.lead true limit) levels (.rule i) c).cutOff = false) :
    Block.Scan (fun c => (m.skip limit c).1) opening closing c
      (m.parse (m.lead true limit) levels (.rule i) c).result := by
  rw [parse_eq] at hcut ⊢
  change (m.call _ _ _ _).cutOff = false at hcut
  change Block.Scan _ _ _ _ (m.call _ _ _ _).result
  obtain ⟨hsome, hnone⟩ := call_follows hi hopening limit levels c hcut
  cases hr : (m.call (m.lead true limit) levels i c).result with
  | some f =>
    obtain ⟨-, d, hd, hcount⟩ := hsome f hr
    exact .opened hd (hcount 0 (some f) .closed)
  | none =>
    cases hd : (m.skip limit c).1.strip? opening with
    | some d => exact .opened hd (hnone hr d hd 0)
    | none => exact .missing hd

end Matcher

namespace Grammar

theorem block_eq (name opening closing : String) :
    block name opening closing = .blockBody name opening.toList closing.toList := rfl

theorem names_put (name : String) (e : Expr String String) (rules : List (String × Expr String String)) :
    (put name e rules).map (·.1) =
      if name ∈ rules.map (·.1) then rules.map (·.1) else rules.map (·.1) ++ [name] := by
  induction rules with
  | nil => rfl
  | cons r rules ih =>
    obtain ⟨n, d⟩ := r
    rw [put]
    by_cases h : n = name
    · simp [h]
    · rw [if_neg h, List.map_cons, ih]
      split <;> simp_all [Ne.symm h]

/-- A grammar that is built in steps has one rule of a name. -/
theorem build_names_nodup (start : Expr String String) (steps : List Step) : (build start steps).names.Nodup := by
  induction steps using List.reverseRecOn with
  | nil => exact .nil
  | append_singleton steps step ih =>
    have hput : ∀ (name : String) (e : Expr String String),
        ((put name e (build start steps).rules).map (·.1)).Nodup := by
      intro name e
      rw [names_put]
      split
      · exact ih
      · next h => exact List.nodup_append_comm.1 (List.nodup_cons.2 ⟨h, ih⟩)
    rw [build_append]
    cases step with
    | define name e => exact hput name e
    | nested name opening closing => exact hput name _
    | ignore e => exact ih
    | skippingBlanks skip => exact ih

/-- A name keeps its definition as long as it is not defined anew. -/
theorem latest_of_after {α : Type} {said : Step → Option α} {before after : List Step} {step : Step} {a : α}
    (hstep : said step = some a) (hafter : ∀ s ∈ after, said s = none) :
    latest said (before ++ step :: after) = some a := by
  have hnone : after.reverse.findSome? said = none := List.findSome?_eq_none_iff.2 (by simpa using hafter)
  simp [latest, hnone, hstep]

/-- The position of the one rule of a name. -/
theorem At.getElem?_iff {g : Grammar} (hnodup : g.names.Nodup) {name : String} {d : Expr String String}
    (hlookup : g.rules.lookup name = some d) {i : Fin g.names.length} (hi : g.At name i) (j : Fin g.names.length)
    (e : Expr String String) : g.rules[j.val]? = some (name, e) ↔ j = i ∧ e = d := by
  obtain ⟨e', hget, hlookup'⟩ := lookup_of_finIdxOf? hi
  cases hlookup.symm.trans hlookup'
  constructor
  · intro hj
    have hij : j = i := by
      apply List.nodup_iff_injective_get.1 hnodup
      obtain ⟨hlt, hj⟩ := List.getElem?_eq_some_iff.1 hj
      rw [hi.get_eq]
      simp [hj]
    cases hij
    cases hget.symm.trans hj
    exact ⟨rfl, rfl⟩
  · rintro ⟨rfl, rfl⟩
    exact hget

/-- A grammar in which a name was last defined as a balanced block has one rule of that name. Unless it is cut off, an
attempt at that rule succeeds with the end that the scan finds, and fails where the scan fails, from every place and
whatever is skipped. Neither word may begin with the other; in particular neither is empty. -/
theorem nested_scan (start : Expr String String) (before after : List Step) (name opening closing : String)
    (hafter : ∀ s ∈ after, s.definition? name = none) (hopening : ¬opening.toList <+: closing.toList)
    (hclosing : ¬closing.toList <+: opening.toList) (m : Matcher)
    (hm : (build start (before ++ .nested name opening closing :: after)).compile = .ok m) :
    ∃ i : Fin m.size,
      (∀ (j : Fin m.size) (e : Expr String String),
        (build start (before ++ .nested name opening closing :: after)).rules[j.val]? = some (name, e) ↔
          j = i ∧ e = block name opening closing) ∧
      ∀ (limit levels : Nat) (c : Cursor), (m.parse (m.lead true limit) levels (.rule i) c).cutOff = false →
        let scan := Block.Scan (fun c => (m.skip limit c).1) opening.toList closing.toList c
        (∀ e, (m.parse (m.lead true limit) levels (.rule i) c).result = some e ↔ scan (some e)) ∧
          ((m.parse (m.lead true limit) levels (.rule i) c).result = none ↔ scan none) := by
  have hlookup := build_lookup start (before ++ .nested name opening closing :: after) name
  rw [latest_of_after (if_pos rfl) hafter] at hlookup
  have hnodup := build_names_nodup start (before ++ .nested name opening closing :: after)
  generalize build start (before ++ .nested name opening closing :: after) = g at hm hlookup hnodup
  obtain ⟨start', rules, ignored, rfl, -, hrules, -⟩ := compile_ok hm
  obtain ⟨i, hi⟩ := exists_at_of_lookup hlookup
  have hpos := hi.getElem?_iff hnodup hlookup
  have hbody := hrules i name _ ((hpos i _).2 ⟨rfl, rfl⟩)
  rw [block_eq] at hbody
  obtain ⟨i', hi', hbody⟩ := hbody.eq_blockBody
  cases At.unique hi hi'
  have hne : opening.toList ≠ [] := fun h => hopening (h ▸ List.nil_prefix)
  refine ⟨i, hpos, fun limit levels c hcut => ?_⟩
  intro scan
  have hscan : scan _ := Matcher.parse_scan hbody hne limit levels hcut
  have hiff : ∀ r, _ = r ↔ scan r :=
    fun r => ⟨fun h => h ▸ hscan, fun h => hscan.unique hopening hclosing h⟩
  exact ⟨fun e => hiff (some e), hiff none⟩

/-- Comments that nest, with blanks and marked characters skipped. -/
def comments : Grammar :=
  build (.rule "comment") ([.define "comment" .never] ++ .nested "comment" "/*" "*/" ::
    [.ignore (.seq (.literal ['#']) .any), .skippingBlanks true])

/-- A marked word opens and closes nothing, and the comment ends with the outer of two. -/
theorem comments_nested_scan : ∃ m, comments.compile = .ok m ∧ ∃ i : Fin m.size,
    (m.parse (m.lead true 512) 512 (.rule i) (.start " /* #*/ /* a */ */ */".toList)).cutOff = false ∧
      ∃ e : Cursor, e.offset = 18 ∧ Block.Scan (fun c => (m.skip 512 c).1) "/*".toList "*/".toList
        (.start " /* #*/ /* a */ */ */".toList) (some e) := by
  have h : comments.compile.toOption.map (fun m => (List.finRange m.size).map fun i =>
      ((m.parse (m.lead true 512) 512 (.rule i) (.start " /* #*/ /* a */ */ */".toList)).cutOff,
        (m.parse (m.lead true 512) 512 (.rule i) (.start " /* #*/ /* a */ */ */".toList)).result.map (·.offset))) =
      some [(false, some 18)] := by decide +kernel
  obtain ⟨m, hm, hrun⟩ := toOption_map_ok h
  obtain ⟨i, -, hi⟩ := nested_scan (.rule "comment") [.define "comment" .never] [.ignore _, .skippingBlanks true]
    "comment" "/*" "*/" (by decide) (by decide) (by decide) m hm
  have hrun := List.mem_singleton.1 (hrun ▸ List.mem_map_of_mem (List.mem_finRange i))
  obtain ⟨hcut, hresult⟩ := Prod.mk.inj hrun
  obtain ⟨e, he, ho⟩ := Option.map_eq_some_iff.1 hresult
  exact ⟨m, hm, i, hcut, e, ho, ((hi 512 512 _ hcut).1 e).1 he⟩

end Grammar

end PatternLint
