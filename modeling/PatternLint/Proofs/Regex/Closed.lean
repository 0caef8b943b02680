import Mathlib.Tactic.SplitIfs
import PatternLint.Regex.Bracket
/-!
# Readers before a parenthesis

A reader of a part of a pattern does the same where a closing parenthesis follows the pattern. It may come to the end
of the pattern first: then a comment swallows the parenthesis, or the reader takes it for its own or stops before it,
and has not done any good by that. `Left` relates what is left to read of the two texts, and `Tracks` what comes of
reading it. One lemma for each reader follows the way it is put together: layout, escapes and brackets here.
-/
namespace PatternLint.Regex

/-- The second text goes on with a parenthesis, unless that was swallowed. -/
inductive Closed : List Char → List Char → Prop
  | swallowed : Closed [] []
  | here : Closed [] [')']
  | cons (c : Char) {cs cs' : List Char} : Closed cs cs' → Closed (c :: cs) (c :: cs')

/-- What is left to read of the two texts, at most `n` characters of the first. -/
structure Left (n : Nat) (cs cs' : List Char) : Prop where
  closed : Closed cs cs'
  le : cs.length ≤ n

/-- Both outcomes are successes related by `R`, or failures, or the second is a success that is in vain. -/
inductive Tracks {γ : Type} (vain : γ → Prop) (R : γ → γ → Prop) : Except Fault γ → Except Fault γ → Prop
  | ok {a a' : γ} : R a a' → Tracks vain R (.ok a) (.ok a')
  | error (e e' : Fault) : Tracks vain R (.error e) (.error e')
  | vain {e : Fault} {a' : γ} : vain a' → Tracks vain R (.error e) (.ok a')

/-- A success is in vain. -/
def Futile {γ : Type} (vain : γ → Prop) (x : Except Fault γ) : Prop := ∀ a, x = .ok a → vain a

/-- No success is in vain. -/
def Never {γ : Type} (_ : γ) : Prop := False

/-- Both outcomes have the same value. -/
inductive SameValue {α : Type} (n : Nat) : α × List Char → α × List Char → Prop
  | mk (a : α) {rest rest' : List Char} : Left n rest rest' → SameValue n (a, rest) (a, rest')

/-- Both outcomes have the same two values. -/
inductive SameValues {α β : Type} (n : Nat) : α × β × List Char → α × β × List Char → Prop
  | mk (a : α) (b : β) {rest rest' : List Char} : Left n rest rest' → SameValues n (a, b, rest) (a, b, rest')

variable {α β γ : Type} {V : γ → Prop} {R : γ → γ → Prop} {cs cs' : List Char} {n : Nat}

theorem closed_append (cs : List Char) : Closed cs (cs ++ [')']) := by
  induction cs with
  | nil => exact .here
  | cons c cs ih => exact .cons c ih

theorem Left.tail {c c' : Char} (h : Left n (c :: cs) (c' :: cs')) : Left n cs cs' := by
  obtain ⟨_ | _ | hcs, hn⟩ := h
  exact ⟨‹_›, Nat.le_of_succ_le hn⟩

theorem Left.of_succ {c c' : Char} (h : Left (n + 1) (c :: cs) (c' :: cs')) : Left n cs cs' :=
  ⟨h.tail.closed, Nat.le_of_succ_le_succ h.le⟩

theorem Left.mono {m : Nat} (h : Left m cs cs') (hmn : m ≤ n) : Left n cs cs' := ⟨h.closed, Nat.le_trans h.le hmn⟩

/-- The first text is at its end, or both go on with the same character. -/
theorem Left.nil_or_cons (h : Left n cs cs') :
    cs = [] ∧ (cs' = [] ∨ cs' = [')']) ∨ ∃ c ds ds', cs = c :: ds ∧ cs' = c :: ds' ∧ Left n ds ds' := by
  obtain ⟨hcs, hn⟩ := id h
  cases hcs with
  | swallowed => exact .inl ⟨rfl, .inl rfl⟩
  | here => exact .inl ⟨rfl, .inr rfl⟩
  | cons c hds => exact .inr ⟨c, _, _, rfl, rfl, h.tail⟩

theorem Left.cons_left {c : Char} {ds : List Char} (h : Left n (c :: ds) cs') :
    ∃ ds', cs' = c :: ds' ∧ Left n ds ds' := by
  obtain ⟨⟨⟩, -⟩ | ⟨_, _, ds', ⟨⟩, rfl, hds⟩ := h.nil_or_cons
  exact ⟨ds', rfl, hds⟩

theorem Left.cons_cons_left {c d : Char} {ds : List Char} (h : Left n (c :: d :: ds) cs') :
    ∃ ds', cs' = c :: d :: ds' ∧ Left n ds ds' := by
  obtain ⟨es', rfl, hes⟩ := h.cons_left
  obtain ⟨ds', rfl, hds⟩ := hes.cons_left
  exact ⟨ds', rfl, hds⟩

theorem Left.cons_right {c : Char} {ds' : List Char} (h : Left n cs (c :: ds')) (hc : c ≠ ')') :
    ∃ ds, cs = c :: ds ∧ Left n ds ds' := by
  rcases h.nil_or_cons with ⟨-, hcs | hcs⟩ | ⟨_, ds, _, rfl, ⟨⟩, hds⟩
  · cases hcs
  · exact absurd (List.cons.inj hcs).1 hc
  · exact ⟨ds, rfl, hds⟩

/-- What the second text begins with, other than the parenthesis, the first begins with too. -/
theorem Left.not_cons_right {c : Char} {ds' : List Char} (h : Left n cs (c :: ds')) (hc : c ≠ ')')
    (hne : ∀ ds, cs = c :: ds → False) : False := by
  obtain ⟨ds, rfl, -⟩ := h.cons_right hc
  exact hne ds rfl

theorem Left.not_cons_cons_right {c d : Char} {ds' : List Char} (h : Left n cs (c :: d :: ds')) (hc : c ≠ ')')
    (hd : d ≠ ')') (hne : ∀ ds, cs = c :: d :: ds → False) : False := by
  obtain ⟨es, rfl, hes⟩ := h.cons_right hc
  exact hes.not_cons_right hd fun ds heq => hne ds (by rw [heq])

namespace Futile

theorem error (e : Fault) : Futile V (.error e : Except Fault γ) := nofun

theorem ok {a : γ} (h : V a) : Futile V (.ok a) := by
  rintro _ ⟨⟩
  exact h

theorem bind {x : Except Fault β} {k : β → Except Fault γ} (h : ∀ b, Futile V (k b)) : Futile V (x >>= k) := by
  cases x with
  | error e => exact .error e
  | ok b => exact h b

theorem tracks {x : Except Fault γ} (h : Futile V x) (e : Fault) : Tracks V R (.error e) x := by
  cases x with
  | error e' => exact .error e e'
  | ok a => exact .vain (h a rfl)

end Futile

namespace Tracks

theorem same {W : α × List Char → Prop} (a : α) (h : Left n cs cs') :
    Tracks W (SameValue n) (.ok (a, cs)) (.ok (a, cs')) := .ok (.mk a h)

theorem forth {x x' : Except Fault γ} (h : Tracks V R x x') {a : γ} (ha : x = .ok a) : ∃ a', x' = .ok a' ∧ R a a' := by
  cases h with
  | ok hr => cases ha; exact ⟨_, rfl, hr⟩
  | error | vain => cases ha

theorem back {x x' : Except Fault γ} (h : Tracks V R x x') {a' : γ} (ha : x' = .ok a') :
    V a' ∨ ∃ a, x = .ok a ∧ R a a' := by
  cases h with
  | ok hr => cases ha; exact .inr ⟨_, rfl, hr⟩
  | error => cases ha
  | vain hv => cases ha; exact .inl hv

theorem mono {W : γ → Prop} {S : γ → γ → Prop} (hV : ∀ a, V a → W a) (hR : ∀ a a', R a a' → S a a')
    {x x' : Except Fault γ} (h : Tracks V R x x') : Tracks W S x x' := by
  cases h with
  | ok hr => exact .ok (hR _ _ hr)
  | error e e' => exact .error e e'
  | vain hv => exact .vain (hV _ hv)

theorem bind {W : β → Prop} {S : β → β → Prop} {x x' : Except Fault β} {k k' : β → Except Fault γ}
    (h : Tracks W S x x') (hk : ∀ b b', S b b' → Tracks V R (k b) (k' b')) (hvain : ∀ b', W b' → Futile V (k' b')) :
    Tracks V R (x >>= k) (x' >>= k') := by
  cases h with
  | ok hs => exact hk _ _ hs
  | error e e' => exact .error e e'
  | vain hw => exact (hvain _ hw).tracks _

/-- What does not read may decide whether to go on. -/
theorem bind_value {x : Except Fault β} {k k' : β → Except Fault γ} (h : ∀ b, Tracks V R (k b) (k' b)) :
    Tracks V R (x >>= k) (x >>= k') := by
  cases x with
  | error e => exact .error e e
  | ok b => exact h b

end Tracks

/-! ## Layout -/

theorem skipLayout_closed (h : Closed cs cs') : ∀ inComment,
    Closed (skipLayout inComment cs) (skipLayout inComment cs') := by
  induction h with
  | swallowed => intro inComment; exact .swallowed
  | here =>
    intro inComment
    cases inComment with
    | false => exact .here
    | true => exact .swallowed
  | cons c hcs ih =>
    intro inComment
    simp only [skipLayout]
    split_ifs
    · exact ih _
    · exact ih _
    · exact ih _
    · exact .cons c hcs

theorem length_skipLayout (cs : List Char) : ∀ inComment, (skipLayout inComment cs).length ≤ cs.length := by
  induction cs with
  | nil => intro inComment; exact Nat.le_refl _
  | cons c cs ih =>
    intro inComment
    simp only [skipLayout]
    split_ifs
    · exact Nat.le_succ_of_le (ih _)
    · exact Nat.le_succ_of_le (ih _)
    · exact Nat.le_succ_of_le (ih _)
    · exact Nat.le_refl _

variable (f : Flags)

theorem Flags.skip_nil : f.skip [] = [] := by
  unfold Flags.skip
  split <;> rfl

theorem Left.skip (h : Left n cs cs') : Left n (f.skip cs) (f.skip cs') := by
  unfold Flags.skip
  split
  · exact ⟨skipLayout_closed h.closed false, Nat.le_trans (length_skipLayout cs false) h.le⟩
  · exact h

/-! ## Escapes -/

theorem hexDigits_tracks (k : Nat) : ∀ (m : Nat) {cs cs' : List Char}, Left n cs cs' →
    Tracks Never (SameValue n) (hexDigits f k m cs) (hexDigits f k m cs') := by
  induction k with
  | zero => intro m cs cs' h; exact .same m h
  | succ k ih =>
    intro m cs cs' h
    rcases h.nil_or_cons with ⟨rfl, rfl | rfl⟩ | ⟨c, ds, ds', rfl, rfl, hds⟩
    · exact .error _ _
    · exact .error _ _
    · simp only [hexDigits]
      split
      · exact .error _ _
      · exact ih _ (hds.skip f)

theorem untilBrace_rel (cs : List Char) : ∀ {cs' : List Char} (inComment : Bool) (word : List Char), Left n cs cs' →
    Option.Rel (SameValue n) (untilBrace f inComment word cs) (untilBrace f inComment word cs') := by
  induction cs with
  | nil =>
    intro cs' inComment word h
    rcases h.nil_or_cons with ⟨-, rfl | rfl⟩ | ⟨_, _, _, ⟨⟩, -, -⟩
    · exact .none
    · simp [untilBrace]
  | cons c ds ih =>
    intro cs' inComment word h
    obtain ⟨ds', rfl, hds⟩ := h.cons_left
    simp only [untilBrace]
    split_ifs
    · exact ih _ _ hds
    · exact ih _ _ hds
    · exact ih _ _ hds
    · exact .some (SameValue.mk _ hds)
    · exact ih _ _ hds

theorem hexEscape_tracks (k : Nat) (h : Left n cs cs') :
    Tracks Never (SameValue n) (hexEscape f k cs) (hexEscape f k cs') := by
  unfold hexEscape
  have hs := h.skip f
  generalize f.skip cs = ds at hs
  generalize f.skip cs' = ds' at hs
  split
  · next es =>
    obtain ⟨es', rfl, hes⟩ := hs.cons_left
    have hbrace := untilBrace_rel f es false [] hes
    simp only
    generalize untilBrace f false [] es = x at hbrace ⊢
    generalize untilBrace f false [] es' = x' at hbrace ⊢
    obtain ⟨digits, hrest⟩ | _ := hbrace
    · simp only
      cases (hexValue? digits).bind charOfCode? with
      | none => exact .error _ _
      | some c => exact .same _ (hrest.skip f)
    · exact .error _ _
  · next hne =>
    split
    · exact (hs.not_cons_right (by decide) hne).elim
    · refine (hexDigits_tracks f k 0 hs).bind ?_ nofun
      rintro _ _ ⟨m, hrest⟩
      simp only
      cases charOfCode? m with
      | none => exact .error _ _
      | some c => exact .same _ hrest

theorem propertyEscape_tracks (negated : Bool) (h : Left n cs cs') :
    Tracks Never (SameValue n) (propertyEscape f negated cs) (propertyEscape f negated cs') := by
  unfold propertyEscape
  have hs := h.skip f
  generalize f.skip cs = ds at hs
  generalize f.skip cs' = ds' at hs
  extract_lets classOf
  have hclass : ∀ found rest rest', Left n rest rest' →
      Tracks Never (SameValue n) (classOf (found, rest)) (classOf (found, rest')) := by
    intro found rest rest' hrest
    cases found with
    | none => exact .error _ _
    | some found =>
      simp only [classOf]
      split
      · exact .bind_value fun s => .same _ hrest
      · exact .error _ _
  rcases hs.nil_or_cons with ⟨rfl, rfl | rfl⟩ | ⟨c, es, es', rfl, rfl, hes⟩
  · exact .error _ _
  · have hproperty : CharSet.property? (.singleton ')') = none := by decide +kernel
    simp only [Char.reduceEq, imp_self, Char.toString, hproperty]
    exact .error _ _
  · by_cases hbrace : c = '{'
    · subst hbrace
      have hrel := untilBrace_rel f es false [] hes
      simp only
      generalize untilBrace f false [] es = x at hrel ⊢
      generalize untilBrace f false [] es' = x' at hrel ⊢
      obtain ⟨name, hrest⟩ | _ := hrel
      · exact hclass _ _ _ hrest
      · exact .error _ _
    · by_cases hslash : c = '\\'
      · subst hslash
        exact .error _ _
      · simp only
        exact hclass _ _ _ (hes.skip f)

/-- What is left begins with a brace, and there is nothing but layout between it and the parenthesis. -/
def EmptyBraces (rest' : List Char) : Prop := ∃ inner', rest' = '{' :: inner' ∧ f.skip inner' = [')']

theorem namedEdge_tracks (h : Left n cs cs') :
    Tracks (fun edge => edge = none ∧ EmptyBraces f cs') (Option.Rel (SameValue n)) (namedEdge f cs)
      (namedEdge f cs') := by
  unfold namedEdge
  split
  · next inner =>
    obtain ⟨inner', rfl, hinner⟩ := h.cons_left
    simp only
    rcases (hinner.skip f).nil_or_cons with ⟨hs, hs' | hs'⟩ | ⟨c, ds, ds', hcons, hcons', -⟩
    · rw [hs, hs']
      exact .error _ _
    · rw [hs, hs']
      exact .vain ⟨rfl, inner', rfl, hs'⟩
    · rw [hcons, hcons']
      have hrel := untilBrace_rel f inner false [] hinner
      simp only
      split
      · exact .ok .none
      · generalize untilBrace f false [] inner = x at hrel ⊢
        generalize untilBrace f false [] inner' = x' at hrel ⊢
        obtain ⟨name, hrest⟩ | _ := hrel
        · simp only
          split
          · exact .ok (.some (SameValue.mk _ hrest))
          · exact .ok (.some (SameValue.mk _ hrest))
          · exact .ok (.some (SameValue.mk _ hrest))
          · exact .ok (.some (SameValue.mk _ hrest))
          · exact .error _ _
        · exact .error _ _
  · next hne =>
    split
    · exact (h.not_cons_right (by decide) hne).elim
    · exact .ok .none

/-- The escape took the parenthesis, or it is an assertion before braces that hold nothing. -/
def VainEscape (p : Atom × List Char) : Prop := p.2 = [] ∨ (∃ a, p.1 = .assertion a) ∧ EmptyBraces f p.2

theorem escape_tracks (h : Left n cs cs') : Tracks (VainEscape f) (SameValue n) (escape f cs) (escape f cs') := by
  rcases h.nil_or_cons with ⟨rfl, rfl | rfl⟩ | ⟨c, ds, ds', rfl, rfl, hds⟩
  · exact .error _ _
  · exact .vain (.inl rfl)
  · simp only [escape]
    split
    case h_1 | h_2 | h_3 => exact (hexEscape_tracks f _ hds).mono nofun fun _ _ => id
    case h_4 | h_5 => exact (propertyEscape_tracks f _ hds).mono nofun fun _ _ => id
    case h_6 | h_7 | h_8 | h_9 | h_10 | h_11 => exact .bind_value fun s => .same _ hds
    case h_20 =>
      refine (namedEdge_tracks f hds).bind ?_ ?_
      · rintro _ _ (⟨edge, hrest⟩ | _)
        · exact .same _ hrest
        · exact .same _ hds
      · rintro _ ⟨rfl, hbraces⟩
        exact .ok (.inr ⟨⟨_, rfl⟩, hbraces⟩)
    case h_24 =>
      split
      · exact .same _ hds
      · exact .error _ _
    all_goals exact .same _ hds

/-! ## Brackets -/

theorem dashes_same (cs : List Char) : ∀ {cs' : List Char} (b : Bracket) (inComment : Bool), Left n cs cs' →
    SameValue n (openBracket.dashes f b inComment cs) (openBracket.dashes f b inComment cs') := by
  induction cs with
  | nil =>
    intro cs' b inComment h
    rcases h.nil_or_cons with ⟨-, rfl | rfl⟩ | ⟨_, _, _, ⟨⟩, -, -⟩
    · exact .mk b h
    · have hblank : isBlank ')' = false := by decide
      -- a comment that is still open swallows the parenthesis
      cases inComment with
      | false => simpa [openBracket.dashes, hblank] using SameValue.mk b h
      | true => exact .mk b ⟨.swallowed, h.le⟩
  | cons c ds ih =>
    intro cs' b inComment h
    obtain ⟨ds', rfl, hds⟩ := h.cons_left
    simp only [openBracket.dashes]
    split_ifs
    · exact ih _ _ hds
    · exact ih _ _ hds
    · exact ih _ _ hds
    · exact ih _ _ hds
    · exact .mk b h

/-- Whether a bracket is negated, and what follows. -/
def caret : List Char → Bool × List Char
  | '^' :: cs => (true, f.skip cs)
  | cs => (false, cs)

/-- A closing bracket that comes first stands for itself. -/
def firstItem (b : Bracket) (cs : List Char) : Except Fault (Bracket × List Char) :=
  match cs with
  | [] => .error .unclosedClass
  | ']' :: rest =>
    if b.items = 0 then
      match f.skip rest with
      | [] => .error .unclosedClass
      | rest => .ok (b.add (.singleton ']') 0, rest)
    else .ok (b, cs)
  | _ => .ok (b, cs)

theorem openBracket_eq (cs : List Char) : openBracket f cs =
    firstItem f (openBracket.dashes f { negated := (caret f (f.skip cs)).1 } false (caret f (f.skip cs)).2).1
      (openBracket.dashes f { negated := (caret f (f.skip cs)).1 } false (caret f (f.skip cs)).2).2 := by
  rfl

theorem caret_same (h : Left n cs cs') : SameValue n (caret f cs) (caret f cs') := by
  unfold caret
  split
  · obtain ⟨ds', rfl, hds⟩ := h.cons_left
    exact .mk _ (hds.skip f)
  · next hne =>
    split
    · exact (h.not_cons_right (by decide) hne).elim
    · exact .mk _ h

/-- Nothing is left, or the parenthesis only. A class that is still open there is never closed. -/
def AtEnd (rest' : List Char) : Prop := rest' = [] ∨ rest' = [')']

theorem firstItem_tracks (b : Bracket) (h : Left n cs cs') :
    Tracks (fun p => AtEnd p.2) (SameValue n) (firstItem f b cs) (firstItem f b cs') := by
  rcases h.nil_or_cons with ⟨rfl, rfl | rfl⟩ | ⟨c, ds, ds', rfl, rfl, hds⟩
  · exact .error _ _
  · exact .vain (.inr rfl)
  · by_cases hc : c = ']'
    · subst hc
      simp only [firstItem]
      split
      · have hrest := hds.skip f
        rcases hrest.nil_or_cons with ⟨hs, hs' | hs'⟩ | ⟨c, es, es', hcons, hcons', -⟩
        · rw [hs, hs']
          exact .error _ _
        · rw [hs, hs']
          exact .vain (.inr rfl)
        · rw [hcons, hcons'] at hrest ⊢
          exact .same _ hrest
      · exact .same _ h
    · simpa [firstItem, hc] using Tracks.same b h

theorem openBracket_tracks (h : Left n cs cs') :
    Tracks (fun p => AtEnd p.2) (SameValue n) (openBracket f cs) (openBracket f cs') := by
  rw [openBracket_eq, openBracket_eq]
  have hcaret := caret_same f (h.skip f)
  generalize caret f (f.skip cs) = p at hcaret ⊢
  generalize caret f (f.skip cs') = p' at hcaret ⊢
  obtain ⟨negated, hrest⟩ := hcaret
  have hdashes := dashes_same f _ { negated } false hrest
  generalize openBracket.dashes f { negated } false _ = q at hdashes ⊢
  generalize openBracket.dashes f { negated } false _ = q' at hdashes ⊢
  obtain ⟨b, hb⟩ := hdashes
  exact firstItem_tracks f b hb

theorem cutAt?_colon_rel (cs : List Char) : ∀ {cs' : List Char}, Left n cs cs' →
    Option.Rel (SameValue n) (cutAt? [':'] cs) (cutAt? [':'] cs') := by
  induction cs with
  | nil =>
    intro cs' h
    rcases h.nil_or_cons with ⟨-, rfl | rfl⟩ | ⟨_, _, _, ⟨⟩, -, -⟩
    · exact .none
    · exact .none
  | cons c ds ih =>
    intro cs' h
    obtain ⟨ds', rfl, hds⟩ := h.cons_left
    by_cases hc : c = ':'
    · subst hc
      exact .some (SameValue.mk _ hds)
    · have hrest := ih hds
      simp only [cutAt?, List.isPrefixOf, beq_eq_false_iff_ne.2 (Ne.symm hc), Bool.false_and, Bool.false_eq_true,
        if_false]
      generalize cutAt? [':'] ds = x at hrest ⊢
      generalize cutAt? [':'] ds' = x' at hrest ⊢
      obtain ⟨_, hrest⟩ | _ := hrest
      · exact .some (SameValue.mk _ hrest)
      · exact .none

/-- A class named up to a colon and a closing bracket. -/
def classNamed (negated : Bool) (cs : List Char) : Option (CharSet × Bool × List Char) :=
  match cutAt? [':'] cs with
  | some (name, ']' :: rest) => (CharSet.named? (String.ofList name)).map fun s => (s, negated, rest)
  | _ => none

theorem namedClass?_of_ne {c : Char} (hc : c ≠ '^') : namedClass? (':' :: c :: cs) = classNamed false (c :: cs) := by
  simp only [namedClass?, List.cons.injEq, hc, false_and, imp_self, implies_true]
  rfl

theorem classNamed_rel (negated : Bool) (h : Left n cs cs') :
    Option.Rel (SameValues n) (classNamed negated cs) (classNamed negated cs') := by
  unfold classNamed
  have hcut := cutAt?_colon_rel cs h
  generalize cutAt? [':'] cs = x at hcut ⊢
  generalize cutAt? [':'] cs' = x' at hcut ⊢
  obtain ⟨name, hrest⟩ | _ := hcut
  · rcases hrest.nil_or_cons with ⟨rfl, rfl | rfl⟩ | ⟨c, ds, ds', rfl, rfl, hds⟩
    · exact .none
    · exact .none
    · by_cases hc : c = ']'
      · subst hc
        simp only
        cases CharSet.named? (String.ofList name) with
        | none => exact .none
        | some s => exact .some (.mk s negated hds)
      · simp [hc]
  · exact .none

theorem namedClass?_rel (h : Left n cs cs') : Option.Rel (SameValues n) (namedClass? cs) (namedClass? cs') := by
  rcases h.nil_or_cons with ⟨rfl, rfl | rfl⟩ | ⟨c, ds, ds', rfl, rfl, hds⟩
  · exact .none
  · exact .none
  · by_cases hcolon : c = ':'
    · subst hcolon
      rcases hds.nil_or_cons with ⟨rfl, rfl | rfl⟩ | ⟨c, es, es', rfl, rfl, hes⟩
      · exact .none
      · exact .none
      · by_cases hcaret : c = '^'
        · subst hcaret
          exact classNamed_rel true hes
        · rw [namedClass?_of_ne hcaret, namedClass?_of_ne hcaret]
          exact classNamed_rel false hds
    · simp [namedClass?, hcolon]

theorem classAtom_tracks (h : Left (n + 1) cs cs') :
    Tracks (VainEscape f) (SameValue n) (classAtom f cs) (classAtom f cs') := by
  rcases h.nil_or_cons with ⟨rfl, rfl | rfl⟩ | ⟨c, ds, ds', rfl, rfl, -⟩
  · exact .error _ _
  · exact .vain (.inl rfl)
  · by_cases hc : c = '\\'
    · subst hc
      exact escape_tracks f h.of_succ
    · simpa [classAtom, hc] using Tracks.same _ h.of_succ

theorem peekPast_left {c : Char} (cs : List Char) : ∀ {cs' : List Char} (inComment : Bool), Left n cs cs' →
    peekPast inComment cs = some c → peekPast inComment cs' = some c := by
  induction cs with
  | nil => intro cs' inComment _ h; cases h
  | cons d ds ih =>
    intro cs' inComment hcs h
    obtain ⟨ds', rfl, hds⟩ := hcs.cons_left
    simp only [peekPast] at h ⊢
    split_ifs at h ⊢
    · exact ih _ hds h
    · exact ih _ hds h
    · exact h

theorem peekPast_right (cs : List Char) : ∀ {cs' : List Char} (inComment : Bool), Left n cs cs' →
    peekPast inComment cs = none → peekPast inComment cs' = none ∨ peekPast inComment cs' = some ')' := by
  induction cs with
  | nil =>
    intro cs' inComment hcs _
    rcases hcs.nil_or_cons with ⟨-, rfl | rfl⟩ | ⟨_, _, _, ⟨⟩, -, -⟩
    · exact .inl rfl
    · exact .inr (by cases inComment <;> decide)
  | cons d ds ih =>
    intro cs' inComment hcs h
    obtain ⟨ds', rfl, hds⟩ := hcs.cons_left
    simp only [peekPast] at h ⊢
    split_ifs at h ⊢
    · exact ih _ hds h
    · exact ih _ hds h

/-- What decides about a dash is the same, or neither makes it stand for itself. -/
theorem afterDash_cases (h : Left n cs cs') : afterDash f cs' = afterDash f cs ∨
    (afterDash f cs ≠ some ']' ∧ afterDash f cs ≠ some '-' ∧ afterDash f cs' = some ')') := by
  unfold afterDash
  rcases h.nil_or_cons with ⟨rfl, rfl | rfl⟩ | ⟨c, ds, ds', rfl, rfl, -⟩
  · exact .inl rfl
  · exact .inr ⟨by simp [peekPast], by simp [peekPast], by cases f.verbose <;> decide⟩
  · cases f.verbose with
    | false => exact .inl rfl
    | true =>
      cases hp : peekPast false (c :: ds) with
      | some d => exact .inl (by simp [peekPast_left _ false h hp])
      | none =>
        rcases peekPast_right _ false h hp with hp' | hp'
        · exact .inl (by simp [hp'])
        · have hc : isBlank c = true ∨ c = '#' := by
            simp only [peekPast] at hp
            split_ifs at hp with hblank hhash
            · exact .inl hblank
            · exact .inr (by simpa using hhash)
          refine .inr ⟨?_, ?_, by simp [hp']⟩
          · rintro ⟨⟩
            revert hc
            decide
          · rintro ⟨⟩
            revert hc
            decide

/-- Reads the end of a range, after its dash. -/
def rangeEnd (first : Atom) (cs : List Char) : Except Fault (CharSet × List Char) := do
  let (last, rest) ← classAtom f (f.skip cs)
  let lo ← classChar f first
  let hi ← classChar f last
  if lo ≤ hi then .ok (.range lo.toNat hi.toNat, rest) else .error .classRange

theorem rangeEnd_tracks (first : Atom) (h : Left n cs cs') :
    Tracks (fun p => AtEnd p.2) (SameValue n) (rangeEnd f first cs) (rangeEnd f first cs') := by
  refine (classAtom_tracks f ((h.skip f).mono n.le_succ)).bind ?_ ?_
  · rintro _ _ ⟨last, hlast⟩
    refine .bind_value fun lo => .bind_value fun hi => ?_
    split
    · exact .same _ hlast
    · exact .error _ _
  · rintro ⟨last, rest'⟩ (hnil | ⟨⟨a, rfl⟩, -⟩)
    · refine .bind fun lo => .bind fun hi => ?_
      split
      · exact .ok (.inl hnil)
      · exact .error _
    · exact .bind fun lo => .error _

theorem Flags.skip_brace (inner : List Char) : f.skip ('{' :: inner) = '{' :: inner := by
  have hblank : isBlank '{' = false := by decide
  simp [Flags.skip, skipLayout, hblank]

theorem classItem_tracks (h : Left (n + 1) cs cs') :
    Tracks (fun p => AtEnd p.2) (SameValue n) (classItem f cs) (classItem f cs') := by
  refine (classAtom_tracks f h).bind ?_ ?_
  · rintro _ _ ⟨first, hrest⟩
    dsimp -zeta only
    extract_lets single
    have hsingle : ∀ {ds ds' : List Char}, Left n ds ds' →
        Tracks (fun p => AtEnd p.2) (SameValue n) (single ds) (single ds') := by
      intro ds ds' hds
      simp only [single]
      split
      · exact .bind_value fun c => .same _ hds
      · exact .same _ hds
      · exact .error _ _
    have hs := hrest.skip f
    generalize f.skip _ = ds at hs ⊢
    generalize f.skip _ = ds' at hs ⊢
    rcases hs.nil_or_cons with ⟨rfl, rfl | rfl⟩ | ⟨c, es, es', rfl, rfl, hes⟩
    · exact .error _ _
    · refine Futile.tracks (x := single [')']) ?_ _
      simp only [single]
      split
      · exact .bind fun c => .ok (.inr rfl)
      · exact .ok (.inr rfl)
      · exact .error _
    · by_cases hc : c = '-'
      · subst hc
        simp only
        rcases afterDash_cases f hes with heq | ⟨hbracket, hdash, hparen⟩
        · rw [heq]
          split
          · exact hsingle hs
          · exact hsingle hs
          · exact rangeEnd_tracks f first hes
        · rw [hparen]
          split
          · next he => exact absurd he hbracket
          · next he => exact absurd he hdash
          · exact rangeEnd_tracks f first hes
      · simpa [hc] using hsingle hs
  · rintro ⟨first, rest'⟩ (hnil | ⟨⟨a, rfl⟩, inner', hbrace, -⟩)
    · cases hnil
      dsimp only
      rw [Flags.skip_nil]
      exact .error _
    · cases hbrace
      dsimp only
      rw [Flags.skip_brace]
      exact .error _

/-- Both steps lead to the same. -/
inductive SameStep (n : Nat) : ClassStep → ClassStep → Prop
  | more (b : Bracket) (outer : List Bracket) {rest rest' : List Char} : Left n rest rest' →
      SameStep n (.more b outer rest) (.more b outer rest')
  | done (set : CharSet) (depth : Nat) {rest rest' : List Char} : Left n rest rest' →
      SameStep n (.done set depth rest) (.done set depth rest')

/-- A step after which the class is never closed. -/
def VainStep : ClassStep → Prop
  | .more _ _ rest' => AtEnd rest'
  | .done _ _ _ => False

theorem Flags.skip_paren : f.skip [')'] = [')'] := by
  have hblank : isBlank ')' = false := by decide
  simp [Flags.skip, skipLayout, hblank]

theorem AtEnd.skip (h : AtEnd cs') : AtEnd (f.skip cs') := by
  rcases h with rfl | rfl
  · exact .inl f.skip_nil
  · exact .inr f.skip_paren

theorem classStep_atEnd (b : Bracket) (outer : List Bracket) (h : AtEnd (f.skip cs)) :
    classStep f b outer cs = .error .unclosedClass := by
  have hitem : classItem f [')'] = .error .unclosedClass := by
    simp [classItem, classAtom, Flags.skip_nil, bind, Except.bind]
  rcases h with h | h
  · simp [classStep, h]
  · simp [classStep, h, hitem, bind, Except.bind]

theorem classStep_tracks (b : Bracket) (outer : List Bracket) (h : Left (n + 1) cs cs') :
    Tracks VainStep (SameStep n) (classStep f b outer cs) (classStep f b outer cs') := by
  have hs := h.skip f
  rcases hs.nil_or_cons with ⟨hnil, hend⟩ | ⟨c, es, -, hcons, -, -⟩
  · rw [classStep_atEnd f b outer (.inl hnil), classStep_atEnd f b outer hend]
    exact .error _ _
  unfold classStep
  generalize f.skip cs = ds at hs hcons ⊢
  generalize f.skip cs' = ds' at hs ⊢
  split
  · cases hcons
  · next es =>
    obtain ⟨es', rfl, -⟩ := hs.cons_left
    have hes := hs.of_succ
    have hnamed := namedClass?_rel hes
    simp only
    generalize namedClass? es = x at hnamed ⊢
    generalize namedClass? es' = x' at hnamed ⊢
    obtain ⟨s, negated, hrest⟩ | _ := hnamed
    · exact .bind_value fun s => .ok (.more _ _ hrest)
    · refine (openBracket_tracks f hes).bind ?_ ?_
      · rintro _ _ ⟨inner, hrest⟩
        exact .ok (.more _ _ hrest)
      · rintro ⟨inner, rest'⟩ hend
        exact .ok hend
  · obtain ⟨es', rfl, -⟩ := hs.cons_left
    refine .bind_value fun set => ?_
    cases outer with
    | nil => exact .ok (.done _ _ hs.of_succ)
    | cons b' outer => exact .ok (.more _ _ hs.of_succ)
  · obtain ⟨es', rfl, -⟩ := hs.cons_cons_left
    exact .ok (.more _ _ hs.of_succ.tail)
  · obtain ⟨es', rfl, -⟩ := hs.cons_cons_left
    exact .ok (.more _ _ hs.of_succ.tail)
  · obtain ⟨es', rfl, -⟩ := hs.cons_cons_left
    exact .ok (.more _ _ hs.of_succ.tail)
  · next hnil hopen hclose hinter hdiff hsymm =>
    split
    · rcases hs.nil_or_cons with ⟨rfl, -⟩ | ⟨_, _, _, -, ⟨⟩, -⟩
      exact absurd rfl hnil
    · exact (hs.not_cons_right (by decide) hopen).elim
    · exact (hs.not_cons_right (by decide) hclose).elim
    · exact (hs.not_cons_cons_right (by decide) (by decide) hinter).elim
    · exact (hs.not_cons_cons_right (by decide) (by decide) hdiff).elim
    · exact (hs.not_cons_cons_right (by decide) (by decide) hsymm).elim
    · refine (classItem_tracks f hs).bind ?_ ?_
      · rintro _ _ ⟨s, hrest⟩
        exact .ok (.more _ _ hrest)
      · rintro ⟨s, rest'⟩ hend
        exact .ok hend

theorem classSteps_atEnd (b : Bracket) (outer : List Bracket) (h : AtEnd cs) (budget : List Char) :
    classSteps f b outer cs budget = .error .unclosedClass := by
  cases budget with
  | nil => rfl
  | cons x budget => simp [classSteps, classStep_atEnd f b outer (h.skip f), bind, Except.bind]

/-- Each step takes a character at least, so neither budget is used up. -/
theorem classSteps_tracks (budget : List Char) : ∀ (b : Bracket) (outer : List Bracket) {cs cs' budget' : List Char}
    {n : Nat}, n ≤ budget.length → budget.length ≤ budget'.length → Left n cs cs' →
      Tracks Never (SameValues n) (classSteps f b outer cs budget) (classSteps f b outer cs' budget') := by
  induction budget with
  | nil =>
    intro b outer cs cs' budget' n hn _ h
    obtain rfl := List.length_eq_zero_iff.1 (Nat.le_zero.1 (Nat.le_trans h.le hn))
    rcases h.nil_or_cons with ⟨-, hend⟩ | ⟨_, _, _, ⟨⟩, -, -⟩
    rw [classSteps_atEnd f b outer hend]
    exact .error _ _
  | cons x budget ih =>
    intro b outer cs cs' budget' n hn hb h
    obtain ⟨x', budget', rfl⟩ := List.exists_cons_of_length_pos (Nat.zero_lt_of_lt hb)
    cases n with
    | zero =>
      obtain rfl := List.length_eq_zero_iff.1 (Nat.le_zero.1 h.le)
      rcases h.nil_or_cons with ⟨-, hend⟩ | ⟨_, _, _, ⟨⟩, -, -⟩
      rw [classSteps_atEnd f b outer hend, classSteps_atEnd f b outer (.inl rfl)]
      exact .error _ _
    | succ n =>
      refine (classStep_tracks f b outer h).bind ?_ ?_
      · rintro _ _ (⟨b, outer, hrest⟩ | ⟨set, depth, hrest⟩)
        · refine (ih b outer (Nat.le_of_succ_le_succ hn) (Nat.le_of_succ_le_succ hb) hrest).mono (fun _ => id) ?_
          rintro _ _ ⟨s, depth, hrest⟩
          exact .mk s depth (hrest.mono n.le_succ)
        · exact .ok (.mk set depth (hrest.mono n.le_succ))
      · rintro (⟨b, outer, rest'⟩ | _) hvain
        · simp only [classSteps_atEnd f b outer hvain]
          exact .error _
        · exact hvain.elim

theorem Closed.length_le (h : Closed cs cs') : cs.length ≤ cs'.length := by
  induction h with
  | swallowed | here => exact Nat.zero_le _
  | cons c _ ih => exact Nat.succ_le_succ ih

theorem bracketed_tracks (h : Left n cs cs') : Tracks Never (SameValues n) (bracketed f cs) (bracketed f cs') := by
  refine (openBracket_tracks f ⟨h.closed, Nat.le_refl cs.length⟩).bind ?_ ?_
  · rintro _ _ ⟨b, hrest⟩
    refine (classSteps_tracks f cs b [] (Nat.le_refl _) h.closed.length_le hrest).mono (fun _ => id) ?_
    rintro _ _ ⟨s, depth, hrest⟩
    exact .mk s depth (hrest.mono h.le)
  · rintro ⟨b, rest'⟩ hend
    simp only [classSteps_atEnd f b [] hend]
    exact .error _

end PatternLint.Regex
