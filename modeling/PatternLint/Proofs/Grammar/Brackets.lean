import PatternLint.Proofs.Grammar.Blocks
import PatternLint.Proofs.Grammar.Regions
import PatternLint.Proofs.Text.Reads
/-!
# Brackets outside of regions

A text that is divided into regions has brackets outside of them. `closing?` goes over the parts and counts those to
find the one that closes a bracket. Main statement: `Ignores.call_crosses`. Where the rule of a balanced block succeeds,
it has gone over blanks and regions to an opening bracket, and from there to the bracket that closes it.
-/
namespace PatternLint

section Brackets
variable {κ : Type} [DecidableEq κ] {gap body parts : List (TextPart κ)}

/-- What stands behind the bracket with which the last of so many open ones is closed. -/
def closing? : Nat → List (TextPart κ) → Option (List (TextPart κ))
  | 0, parts => some parts
  | _ + 1, [] => none
  | depth + 1, p :: parts =>
    if p = .char '(' then closing? (depth + 2) parts
    else if p = .char ')' then closing? depth parts
    else closing? (depth + 1) parts

@[simp] theorem closing?_zero (parts : List (TextPart κ)) : closing? 0 parts = some parts := by rw [closing?]

/-- Each bracket that is opened in the parts is closed there, and no other is. -/
def Balanced (parts : List (TextPart κ)) : Prop :=
  ∀ depth after, closing? (depth + 1) (parts ++ after) = closing? (depth + 1) after

/-- The parts end with the bracket that closes one opened before them. -/
def Closes (parts : List (TextPart κ)) : Prop :=
  ∀ depth after, closing? (depth + 1) (parts ++ after) = closing? depth after

theorem Closes.zero (h : Closes parts) (after : List (TextPart κ)) : closing? 1 (parts ++ after) = some after :=
  (h 0 after).trans (closing?_zero after)

/-- Blanks and regions, then an opening bracket, then all up to the one that closes it. -/
def Bracketed (parts : List (TextPart κ)) : Prop :=
  ∃ gap body, parts = gap ++ .char '(' :: body ∧ (∀ p ∈ gap, p.idle = true) ∧ Closes body

theorem Balanced.nil : Balanced ([] : List (TextPart κ)) := fun _ _ => rfl

theorem Balanced.append (h : Balanced parts) (h' : Balanced body) : Balanced (parts ++ body) := by
  intro depth after
  rw [List.append_assoc, h, h']

theorem Balanced.cons {p : TextPart κ} (hopen : p ≠ .char '(') (hclose : p ≠ .char ')') (h : Balanced parts) :
    Balanced (p :: parts) := by
  intro depth after
  rw [List.cons_append, closing?, if_neg hopen, if_neg hclose, h]

theorem Balanced.of_idle (h : ∀ p ∈ gap, p.idle = true) : Balanced gap := by
  induction gap with
  | nil => exact .nil
  | cons p gap ih =>
    obtain ⟨hp, hgap⟩ := List.forall_mem_cons.1 h
    refine .cons ?_ ?_ (ih hgap) <;> rintro rfl <;> cases hp

theorem Bracketed.balanced (h : Bracketed parts) : Balanced parts := by
  obtain ⟨gap, body, rfl, hidle, hcloses⟩ := h
  intro depth after
  rw [List.append_assoc, Balanced.of_idle hidle, List.cons_append, closing?, if_pos rfl, hcloses]

theorem Balanced.closes (h : Balanced parts) : Closes (parts ++ [.char ')']) := by
  intro depth after
  rw [List.append_assoc, h, List.singleton_append, closing?, if_neg (by simp), if_pos rfl]

/-- There is one way only to go over blanks and regions to a bracket and on to the one that closes it. -/
theorem bracketed_unique {gap gap' body body' after after' : List (TextPart κ)}
    (hsame : gap ++ .char '(' :: (body ++ after) = gap' ++ .char '(' :: (body' ++ after'))
    (hgap : ∀ p ∈ gap, p.idle = true) (hgap' : ∀ p ∈ gap', p.idle = true)
    (hbody : closing? 1 (body ++ after) = some after) (hbody' : closing? 1 (body' ++ after') = some after') :
    gap ++ .char '(' :: body = gap' ++ .char '(' :: body' := by
  have hbracket : ¬(TextPart.char '(' : TextPart κ).idle = true := nofun
  have hrest := congrArg (List.dropWhile TextPart.idle) hsame
  rw [List.dropWhile_append_of_pos hgap, List.dropWhile_append_of_pos hgap', List.dropWhile_cons_of_neg hbracket,
    List.dropWhile_cons_of_neg hbracket, List.cons.injEq] at hrest
  rw [hrest.2, hbody'] at hbody
  obtain rfl := Option.some.inj hbody
  have hwhole : (gap ++ .char '(' :: body) ++ after' = (gap' ++ .char '(' :: body') ++ after' := by simpa using hsame
  exact List.append_cancel_right hwhole

end Brackets

/-! ## A block -/

namespace Ignores

variable {κ : Type} [DecidableEq κ] {m : Matcher} {pattern : κ → String} {kinds : List κ} {opens : Char → Bool}
  (h : Ignores m pattern kinds opens) (hopen : opens '(' = false) (hclose : opens ')' = false) {limit levels : Nat}
  {i : Fin m.size} {c d e f : Cursor}
include h

/-- A word that begins no region is read after blanks and regions. -/
theorem literal_crosses {word : List Char} (hword : ∀ x ∈ word, opens x = false)
    (hd : (m.skip limit c).1.strip? word = some d) : ∃ gap, (∀ p ∈ gap, p.idle = true) ∧
      Crosses pattern (inTurn kinds) none c (gap ++ word.map .char) none d := by
  obtain ⟨gap, hgap, hidle, -⟩ := h.skip_crosses limit c
  have hreads := Cursor.strip?_eq_some_iff.1 hd
  have hcross : Crosses pattern (inTurn kinds) none (m.skip limit c).1 _ _ d :=
    h.begins.crosses_chars hword hreads.rest hreads.offset
  rw [ite_self] at hcross
  exact ⟨gap, hidle, hgap.trans hcross⟩

/-- A word that the parts begin with is read where there is nothing to skip. -/
theorem exists_strip {word : List Char} {parts : List (TextPart κ)} (hc : Settled pattern kinds c)
    (hword : ∀ x ∈ word, opens x = false) (hparts : divide pattern (inTurn kinds) c.rest = word.map .char ++ parts) :
    ∃ d, (m.skip limit c).1.strip? word = some d ∧ divide pattern (inTurn kinds) d.rest = parts := by
  obtain ⟨-, d, hrest, -⟩ := h.begins.exists_crosses hparts
  have hskip : (m.skip limit c).1.rest = word ++ d.rest := by
    rw [h.skip_rest limit hc, hrest]
    simp [List.flatMap_map, TextPart.text]
  obtain ⟨d, hreads, -⟩ := Cursor.exists_reads hskip
  have hstrip := Cursor.strip?_eq_some_iff.2 hreads
  obtain ⟨gap, hidle, hcross⟩ := h.literal_crosses hword hstrip
  obtain rfl := hc.eq_nil hcross hidle
  exact ⟨d, hstrip, List.append_cancel_left (hcross.divide_eq.symm.trans hparts)⟩

/-- A character is read after blanks and regions. -/
theorem next_crosses (hd : (m.skip limit c).1.next? = some d) : ∃ gap x, (∀ p ∈ gap, p.idle = true) ∧
    (m.skip limit c).1.rest = x :: d.rest ∧ Crosses pattern (inTurn kinds) none c (gap ++ [.char x]) none d := by
  obtain ⟨gap, hgap, hidle, hsettled⟩ := h.skip_crosses limit c
  obtain ⟨x, hx⟩ := Cursor.next?_eq_some_iff.1 hd
  refine ⟨gap, x, hidle, hx.rest, hgap.trans (.char ?_ hx.rest (by simpa using hx.offset))⟩
  exact first?_eq_none.2 hsettled.outside

section Block
variable (hopen : opens '(' = false) (hclose : opens ')' = false) {call : Fin m.size → Cursor → Attempt}
  (hcall : ∀ {c f}, (call i c).result = some f →
    ∃ parts, Crosses pattern (inTurn kinds) none c parts none f ∧ Bracketed parts)
include hcall

/-- A round inside a block goes over a block, or over a character that is no bracket. -/
theorem blockRound_crosses
    (he : ((Expr.blockRound i ['('] [')']).parse Matcher.runTerminal (m.lead true limit) call c).result = some e) :
    ∃ parts, Crosses pattern (inTurn kinds) none c parts none e ∧ Balanced parts := by
  rcases Expr.parse_choice (.rule i) _ c with ⟨f, hf, heq⟩ | ⟨-, heq⟩
  · rw [Expr.blockRound, heq] at he
    obtain ⟨parts, hcross, hparts⟩ := hcall he
    exact ⟨parts, hcross, hparts.balanced⟩
  · rw [Expr.blockRound, heq, Attempt.after_result, Expr.parse_filler (fun _ => rfl)] at he
    split at he
    · cases he
    · next hno =>
      obtain ⟨gap, x, hidle, hrest, hcross⟩ := h.next_crosses he
      have hx : ∀ y : Char, ¬((m.skip limit c).1.strip? [y]).isSome = true → x ≠ y := by
        rintro y hy rfl
        obtain ⟨d, hd, -⟩ := Cursor.exists_reads (show (m.skip limit c).1.rest = [x] ++ e.rest from hrest)
        exact hy (Option.isSome_iff_exists.2 ⟨d, Cursor.strip?_eq_some_iff.2 hd⟩)
      refine ⟨_, hcross, (Balanced.of_idle hidle).append (.cons ?_ ?_ .nil)⟩
      · exact fun hp => hx '(' (fun hs => hno (.inl hs)) (by cases hp; rfl)
      · exact fun hp => hx ')' (fun hs => hno (.inr hs)) (by cases hp; rfl)

theorem blockRounds_crosses {count : Nat} {a : Attempt}
    (ha : Repeats ((Expr.blockRound i ['('] [')']).parse Matcher.runTerminal (m.lead true limit) call) 0 none count c a)
    (he : a.result = some e) : ∃ parts, Crosses pattern (inTurn kinds) none c parts none e ∧ Balanced parts := by
  induction ha with
  | full hfull => cases hfull
  | stop _ _ =>
    cases he
    exact ⟨[], .refl, .nil⟩
  | idle _ _ _ =>
    cases he
    exact ⟨[], .refl, .nil⟩
  | more _ hp _ _ ih =>
    obtain ⟨parts, hcross, hparts⟩ := h.blockRound_crosses hcall (by rw [hp])
    obtain ⟨parts', hcross', hparts'⟩ := ih he
    exact ⟨parts ++ parts', hcross.trans hcross', hparts.append hparts'⟩

include hopen hclose in
/-- A block goes over brackets that close one another, if the blocks inside it do. -/
theorem blockBody_crosses
    (hforward : ∀ (e : Node m.size) c, (e.parse Matcher.runTerminal (m.lead true limit) call c).Forward c)
    (hf : ((Expr.blockBody i ['('] [')']).parse Matcher.runTerminal (m.lead true limit) call c).result = some f) :
    ∃ parts, Crosses pattern (inTurn kinds) none c parts none f ∧ Bracketed parts := by
  rw [Expr.blockBody] at hf
  rcases Expr.parse_seq (.literal ['(']) _ c with ⟨hnone, heq⟩ | ⟨d, hd, heq⟩
  · rw [heq, hnone] at hf
    cases hf
  · rw [heq, Attempt.after_result] at hf
    rcases Expr.parse_seq (.rounds (.blockRound i ['('] [')']) 0 none) (.literal [')']) d with
      ⟨hnone, heq'⟩ | ⟨e, he, heq'⟩
    · rw [heq', hnone] at hf
      cases hf
    · rw [heq', Attempt.after_result] at hf
      obtain ⟨gap, hidle, hgap⟩ := h.literal_crosses (by simpa using hopen) hd
      obtain ⟨inner, hinner, hbalanced⟩ := h.blockRounds_crosses hcall (Expr.parse_rounds (hforward _) 0 none d) he
      obtain ⟨gap', hidle', hgap'⟩ := h.literal_crosses (by simpa using hclose) hf
      refine ⟨_, (hgap.trans hinner).trans hgap', gap, inner ++ gap' ++ [.char ')'], by simp, hidle, ?_⟩
      exact (hbalanced.append (.of_idle hidle')).closes

end Block

/-- The rule of a block goes over blanks and regions to a bracket, and from there to the bracket that closes it. By the
levels that are left. -/
theorem call_crosses (hopen : opens '(' = false) (hclose : opens ')' = false)
    (hi : m.rules.get i = .blockBody i ['('] [')']) : ∀ {c f : Cursor},
      (m.call (m.lead true limit) levels i c).result = some f →
        ∃ parts, Crosses pattern (inTurn kinds) none c parts none f ∧ Bracketed parts := by
  induction levels with
  | zero => intro c f hf; cases hf
  | succ levels ih =>
    intro c f hf
    have hbody : m.call (m.lead true limit) (levels + 1) i c =
        (Expr.blockBody i ['('] [')']).parse Matcher.runTerminal (m.lead true limit)
          (m.call (m.lead true limit) levels) c := by
      rw [← Matcher.parse_eq, ← hi]
      rfl
    rw [hbody] at hf
    refine h.blockBody_crosses hopen hclose ih (fun e c => ?_) hf
    rw [← Matcher.parse_eq]
    exact m.parse_forward (m.lead_reaches true limit) levels e c

/-- Where the brackets close, the scan for the end of a block comes to an end. By the number of parts that are left. -/
theorem count_of_closing (n : Nat) : ∀ {depth : Nat} {c : Cursor} {after : List (TextPart κ)},
    (divide pattern (inTurn kinds) c.rest).length = n →
    closing? depth (divide pattern (inTurn kinds) c.rest) = some after →
    ∃ f, Block.Count (fun c => (m.skip limit c).1) ['('] [')'] depth c (some f) := by
  induction n using Nat.strong_induction_on with
  | _ n ih =>
    intro depth c after hn hclosing
    cases depth with
    | zero => exact ⟨c, .closed⟩
    | succ depth =>
      obtain ⟨gap, hcross, hidle, hsettled⟩ := h.skip_crosses limit c
      rw [hcross.divide_eq, List.length_append] at hn
      rw [hcross.divide_eq, Balanced.of_idle hidle] at hclosing
      rcases hsettled.cases with ⟨-, hnil⟩ | ⟨x, d, hd, -, hcons⟩
      · rw [hnil] at hclosing
        cases hclosing
      · have hstrip : ∀ y, (m.skip limit c).1.strip? [y] = if x = y then some d else none := by
          intro y
          split
          · next hy => exact Cursor.strip?_eq_some_iff.2 (hy ▸ hd)
          · next hy =>
            refine Option.eq_none_iff_forall_ne_some.2 fun e he => hy ?_
            have hhead := (Cursor.strip?_eq_some_iff.1 he).after
            exact Option.some.inj (hd.after.symm.trans hhead)
        rw [hcons, closing?] at hclosing
        rw [hcons, List.length_cons] at hn
        split at hclosing
        · next hx =>
          cases hx
          obtain ⟨f, hf⟩ := ih _ (by omega) rfl hclosing
          exact ⟨f, .opens (hstrip '(') hf⟩
        · next hx =>
          split at hclosing
          · next hx' =>
            cases hx'
            obtain ⟨f, hf⟩ := ih _ (by omega) rfl hclosing
            exact ⟨f, .closes (hstrip ')') hf⟩
          · next hx' =>
            obtain ⟨f, hf⟩ := ih _ (by omega) rfl hclosing
            refine ⟨f, .passes ?_ ?_ (Cursor.next?_eq_some_iff.2 ⟨x, hd⟩) hf⟩
            · rw [hstrip, if_neg]
              rintro rfl
              exact hx rfl
            · rw [hstrip, if_neg]
              rintro rfl
              exact hx' rfl

/-- The rule of a block succeeds before a block, unless it is cut off. -/
theorem cutOff_of_bracketed (hi : m.rules.get i = .blockBody i ['('] [')']) {gap body after : List (TextPart κ)}
    (hparts : divide pattern (inTurn kinds) c.rest = gap ++ .char '(' :: (body ++ after))
    (hidle : ∀ p ∈ gap, p.idle = true) (hclosing : closing? 1 (body ++ after) = some after)
    (hnone : (m.parse (m.lead true limit) levels (.rule i) c).result = none) :
    (m.parse (m.lead true limit) levels (.rule i) c).cutOff = true := by
  have hbracket : ¬(TextPart.char '(' : TextPart κ).idle = true := nofun
  rw [← Bool.not_eq_false]
  intro hcut
  obtain ⟨-, -, -, hsettled⟩ := h.skip_crosses limit c
  have hskip := h.skip_divide limit c
  rw [hparts, List.dropWhile_append_of_pos hidle, List.dropWhile_cons_of_neg hbracket] at hskip
  rcases hsettled.cases with ⟨-, hnil⟩ | ⟨x, d, hd, -, hcons⟩
  · rw [hnil] at hskip
    cases hskip
  · rw [hcons, List.cons.injEq] at hskip
    cases hskip.1
    obtain ⟨f, hf⟩ := h.count_of_closing _ rfl (hskip.2 ▸ hclosing)
    have hscan := Matcher.parse_scan hi (List.cons_ne_nil _ _) limit levels hcut
    rw [hnone] at hscan
    cases hscan.unique (by decide) (by decide) (.opened (Cursor.strip?_eq_some_iff.2 hd) hf)

end Ignores

end PatternLint
