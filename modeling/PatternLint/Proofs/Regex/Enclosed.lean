import PatternLint.Proofs.Regex.Closed
import PatternLint.Regex.Parser
/-!
# Patterns in a group

A pattern that can be read is read in the same way inside a group, and one that can be read inside a group can be read
by itself, unless it closes a group that it did not open. Main statements: `readUnits_within` and `readUnits_released`
on the two directions, and `parse_enclosed` on a pattern put into a group after an assertion that the text starts.
-/
namespace PatternLint.Regex

variable {cs cs' : List Char} {n : Nat} (f : Flags)

/-! ## Flags, names and counts -/

theorem readFlags_tracks (cs : List Char) : ∀ (f : Flags) (seen : List Char) (negate : Bool) {cs' : List Char},
    Left n cs cs' → Tracks (fun p => p.2 = (')', [])) (SameValues n) (readFlags f seen negate cs)
      (readFlags f seen negate cs') := by
  induction cs with
  | nil =>
    intro f seen negate cs' h
    rcases h.nil_or_cons with ⟨-, rfl | rfl⟩ | ⟨_, _, _, ⟨⟩, -, -⟩
    · exact .error _ _
    · simp only [readFlags]
      split_ifs
      · exact .error _ _
      · exact .vain rfl
      · contradiction
      · contradiction
  | cons c ds ih =>
    intro f seen negate cs' h
    obtain ⟨ds', rfl, hds⟩ := h.cons_left
    simp only [readFlags]
    split_ifs
    · exact .error _ _
    · exact .ok (.mk _ _ hds)
    · exact .error _ _
    · split
      case h_9 => exact .error _ _
      all_goals exact ih _ _ _ hds

theorem groupName_tracks (cs : List Char) : ∀ (name : List Char) {cs' : List Char}, Left n cs cs' →
    Tracks Never (SameValue n) (groupName name cs) (groupName name cs') := by
  induction cs with
  | nil =>
    intro name cs' h
    rcases h.nil_or_cons with ⟨-, rfl | rfl⟩ | ⟨_, _, _, ⟨⟩, -, -⟩
    · exact .error _ _
    · have hname : isNameChar name.isEmpty ')' = false := by cases name.isEmpty <;> decide
      have hnone : groupName name [')'] = .error .groupName := by simp [groupName, hname]
      rw [hnone]
      exact .error _ _
  | cons c ds ih =>
    intro name cs' h
    obtain ⟨ds', rfl, hds⟩ := h.cons_left
    by_cases hc : c = '>'
    · subst hc
      simp only [groupName]
      split
      · exact .error _ _
      · exact .same _ hds
    · simp only [groupName]
      split
      · exact ih _ hds
      · exact .error _ _

theorem Left.dropWhile {p : Char → Bool} (hp : p ')' = false) (cs : List Char) : ∀ {cs' : List Char}, Left n cs cs' →
    Left n (cs.dropWhile p) (cs'.dropWhile p) := by
  induction cs with
  | nil =>
    intro cs' h
    rcases h.nil_or_cons with ⟨-, rfl | rfl⟩ | ⟨_, _, _, ⟨⟩, -, -⟩
    · exact h
    · simpa [hp] using h
  | cons c ds ih =>
    intro cs' h
    obtain ⟨ds', rfl, hds⟩ := h.cons_left
    cases hc : p c with
    | true => simpa [hc] using ih hds
    | false => simpa [hc] using h

theorem digits_same (cs : List Char) : ∀ (m : Option Nat) (inComment : Bool) {cs' : List Char}, Left n cs cs' →
    SameValue n (digits f m inComment cs) (digits f m inComment cs') := by
  induction cs with
  | nil =>
    intro m inComment cs' h
    rcases h.nil_or_cons with ⟨-, rfl | rfl⟩ | ⟨_, _, _, ⟨⟩, -, -⟩
    · exact .mk m h
    · have hblank : isBlank ')' = false := by decide
      have hdigit : Char.isDigit ')' = false := by decide
      -- a comment that is still open swallows the parenthesis
      cases inComment with
      | false => simpa [digits, hblank, hdigit] using SameValue.mk m h
      | true => exact .mk m ⟨.swallowed, h.le⟩
  | cons c ds ih =>
    intro m inComment cs' h
    obtain ⟨ds', rfl, hds⟩ := h.cons_left
    simp only [digits]
    split_ifs
    · exact ih _ _ hds
    · exact ih _ _ hds
    · exact ih _ _ hds
    · exact ih _ _ hds
    · exact .mk m h

theorem readCount_tracks (h : Left n cs cs') :
    Tracks Never (SameValue n) (readCount f cs) (readCount f cs') := by
  have hblank : isBlank ')' = false := by decide
  unfold readCount
  have hdigits := digits_same f _ none false (h.dropWhile hblank)
  generalize digits f none false (cs.dropWhile isBlank) = x at hdigits ⊢
  generalize digits f none false (cs'.dropWhile isBlank) = x' at hdigits ⊢
  obtain ⟨_ | m, hrest⟩ := hdigits
  · exact .error _ _
  · simp only
    split
    · exact .same _ ((hrest.dropWhile hblank).skip f)
    · exact .error _ _

theorem readGreed_same (h : Left n cs cs') : SameValue n (readGreed cs) (readGreed cs') := by
  unfold readGreed
  split
  · obtain ⟨ds', rfl, hds⟩ := h.cons_left
    exact .mk _ hds
  · next hne =>
    split
    · exact (h.not_cons_right (by decide) hne).elim
    · exact .mk _ h

/-! ## Units -/

variable (r : Reader)

/-- Reads the name of a group and opens it. -/
def openNamed (cs : List Char) : Except Fault (Reader × List Char) := do
  let (name, cs) ← groupName [] cs
  if r.names.contains name then .error .groupName
  else
    let r := { r with groups := r.groups + 1, names := name :: r.names }
    pure (r.openGroup (some r.groups) r.flags, cs)

/-- Reads flags and opens a group under them, or sets them. -/
def switchFlags (cs : List Char) : Except Fault (Reader × List Char) := do
  let (f, stop, rest) ← readFlags r.flags [] false cs
  if stop = ':' then pure (r.openGroup none f, rest)
  else if cs.head? = some ')' then .error .nothingToRepeat
  else pure (r.setFlags f, rest)

theorem openNamed_tracks (h : Left n cs cs') : Tracks Never (SameValue n) (openNamed r cs) (openNamed r cs') := by
  refine (groupName_tracks cs [] h).bind ?_ nofun
  rintro _ _ ⟨name, hrest⟩
  simp only
  split
  · exact .error _ _
  · exact .same _ hrest

theorem switchFlags_tracks (h : Left n cs cs') :
    Tracks (·.2 = []) (SameValue n) (switchFlags r cs) (switchFlags r cs') := by
  rcases h.nil_or_cons with ⟨rfl, rfl | rfl⟩ | ⟨c, ds, ds', rfl, rfl, -⟩
  · exact .error _ _
  · exact .error _ _
  · refine (readFlags_tracks _ r.flags [] false h).bind ?_ ?_
    · rintro _ _ ⟨f, stop, hrest⟩
      simp only [List.head?_cons, Option.some.injEq]
      split
      · exact .same _ hrest
      · split
        · exact .error _ _
        · exact .same _ hrest
    · rintro ⟨f, stop, rest'⟩ hstop
      cases hstop
      dsimp only
      rw [if_neg (by decide)]
      split
      · exact .error _
      · exact .ok rfl

theorem readGroup_tracks (h : Left n cs cs') :
    Tracks (·.2 = []) (SameValue n) (readGroup r cs) (readGroup r cs') := by
  unfold readGroup
  have hs := h.skip r.flags
  generalize r.flags.skip cs = ds at hs ⊢
  generalize r.flags.skip cs' = ds' at hs ⊢
  have hnamed : ∀ {es es' : List Char}, Left n es es' →
      Tracks (·.2 = []) (SameValue n) (openNamed r es) (openNamed r es') :=
    fun hes => (openNamed_tracks r hes).mono nofun fun _ _ => id
  split
  · obtain ⟨es', rfl, -⟩ := hs.cons_cons_left
    exact .error _ _
  · obtain ⟨es', rfl, -⟩ := hs.cons_cons_left
    exact .error _ _
  · obtain ⟨es', rfl, hes⟩ := hs.cons_cons_left
    obtain ⟨gs', rfl, -⟩ := hes.cons_left
    exact .error _ _
  · obtain ⟨es', rfl, hes⟩ := hs.cons_cons_left
    obtain ⟨gs', rfl, -⟩ := hes.cons_left
    exact .error _ _
  · obtain ⟨es', rfl, hes⟩ := hs.cons_cons_left
    obtain ⟨gs', rfl, hgs⟩ := hes.cons_left
    exact hnamed hgs
  · next hahead hnot =>
    obtain ⟨gs', rfl, hgs⟩ := hs.cons_cons_left
    rcases hgs.nil_or_cons with ⟨rfl, rfl | rfl⟩ | ⟨c, ks, ks', rfl, rfl, -⟩
    · exact hnamed hgs
    · exact hnamed hgs
    · have heq : c ≠ '=' := by rintro rfl; exact hahead _ rfl
      have hbang : c ≠ '!' := by rintro rfl; exact hnot _ rfl
      simp only [List.cons.injEq, heq, hbang, false_and, imp_self, implies_true]
      exact hnamed hgs
  · next hahead hnot hbehind hbehind' hP hangle =>
    change Tracks _ _ (switchFlags r _) _
    -- what the second text begins with, the first begins with too, so it comes to the same branch
    split
    · exact (hs.tail.not_cons_right (by decide) hahead).elim
    · exact (hs.tail.not_cons_right (by decide) hnot).elim
    · exact (hs.tail.not_cons_right (by decide) hangle).elim
    · exact (hs.tail.not_cons_right (by decide) hangle).elim
    · exact (hs.tail.not_cons_cons_right (by decide) (by decide) hP).elim
    · exact (hs.tail.not_cons_right (by decide) hangle).elim
    · exact switchFlags_tracks r hs.tail
    · next hmark =>
      obtain ⟨es', rfl, -⟩ := hs.cons_left
      exact absurd rfl (hmark _)
  · next hmark =>
    split
    case h_8 => exact .same _ hs
    all_goals exact (hs.not_cons_right (by decide) hmark).elim

/-- Reads the closing brace of a repetition and repeats the last item. -/
def closeBraces (min : Nat) (max : Option Nat) (cs : List Char) : Except Fault (Reader × List Char) :=
  match cs with
  | '}' :: cs =>
    if max.any (· < min) then .error .repetitionCount
    else do pure (← r.repeatLast min max (readGreed (r.flags.skip cs)).1, (readGreed (r.flags.skip cs)).2)
  | _ => .error .repetitionCount

theorem closeBraces_tracks (min : Nat) (max : Option Nat) (h : Left n cs cs') :
    Tracks Never (SameValue n) (closeBraces r min max cs) (closeBraces r min max cs') := by
  rcases h.nil_or_cons with ⟨rfl, rfl | rfl⟩ | ⟨c, ds, ds', rfl, rfl, hds⟩
  · exact .error _ _
  · exact .error _ _
  · by_cases hc : c = '}'
    · subst hc
      simp only [closeBraces]
      split
      · exact .error _ _
      · have hgreed := readGreed_same (hds.skip r.flags)
        generalize readGreed (r.flags.skip ds) = x at hgreed ⊢
        generalize readGreed (r.flags.skip ds') = x' at hgreed ⊢
        obtain ⟨greedy, hrest⟩ := hgreed
        exact .bind_value fun r' => .same r' hrest
    · have hnone : ∀ es, closeBraces r min max (c :: es) = .error .repetitionCount := by
        intro es
        simp [closeBraces, hc]
      rw [hnone, hnone]
      exact .error _ _

theorem readBraces_tracks (h : Left n cs cs') : Tracks Never (SameValue n) (readBraces r cs) (readBraces r cs') := by
  refine (readCount_tracks r.flags (h.skip r.flags)).bind ?_ nofun
  rintro _ _ ⟨min, hrest⟩
  rcases hrest.nil_or_cons with ⟨rfl, rfl | rfl⟩ | ⟨c, ds, ds', rfl, rfl, hds⟩
  · exact .error _ _
  · exact .error _ _
  · by_cases hcomma : c = ','
    · subst hcomma
      have hs := hds.skip r.flags
      have hmax : ∀ a a', SameValue n a a' →
          Tracks Never (SameValue n) (closeBraces r min (some a.1) a.2) (closeBraces r min (some a'.1) a'.2) := by
        rintro _ _ ⟨max, hks⟩
        exact closeBraces_tracks r min (some max) hks
      simp only
      rcases hs.nil_or_cons with ⟨hnil, hnil' | hnil'⟩ | ⟨c, es, es', hcons, hcons', -⟩
      · rw [hnil, hnil'] at hs ⊢
        exact (readCount_tracks r.flags hs).bind hmax nofun
      · rw [hnil, hnil'] at hs ⊢
        exact (readCount_tracks r.flags hs).bind hmax nofun
      · rw [hcons, hcons'] at hs ⊢
        by_cases hbrace : c = '}'
        · subst hbrace
          exact closeBraces_tracks r min none hs
        · simp only [List.cons.injEq, hbrace, false_and, imp_self, implies_true]
          exact (readCount_tracks r.flags hs).bind hmax nofun
    · simp only [List.cons.injEq, hcomma, false_and, imp_self, implies_true]
      exact closeBraces_tracks r min (some min) hrest

/-- The unit took the parenthesis, or braces that hold nothing come next. -/
def VainUnit (p : Reader × List Char) : Prop := p.2 = [] ∨ EmptyBraces p.1.flags p.2

theorem readUnit_tracks (c : Char) (h : Left n cs cs') :
    Tracks VainUnit (SameValue n) (readUnit r c cs) (readUnit r c cs') := by
  unfold readUnit
  extract_lets f quantifier atom quantifier'
  have hquantifier : ∀ min max, Tracks VainUnit (SameValue n) (quantifier min max) (quantifier' min max) := by
    intro min max
    have hgreed := readGreed_same h
    simp only [quantifier, quantifier']
    generalize readGreed cs = x at hgreed ⊢
    generalize readGreed cs' = x' at hgreed ⊢
    obtain ⟨greedy, hrest⟩ := hgreed
    exact .bind_value fun r' => .same r' hrest
  have hatom : ∀ (a : Atom) {ds ds' : List Char}, Left n ds ds' →
      Tracks VainUnit (SameValue n) (atom a ds) (atom a ds') := by
    intro a ds ds' hds
    exact .bind_value fun x => .same _ hds
  split
  · exact (readGroup_tracks r h).mono (fun _ => .inl) fun _ _ => id
  · exact .bind_value fun r' => .same r' h
  · exact .same _ h
  · refine (bracketed_tracks f h).bind ?_ nofun
    rintro _ _ ⟨s, depth, hrest⟩
    exact .same _ hrest
  · exact hquantifier 0 (some 1)
  · exact hquantifier 0 none
  · exact hquantifier 1 none
  · exact (readBraces_tracks r h).mono nofun fun _ _ => id
  · refine (escape_tracks f h).bind ?_ ?_
    · rintro _ _ ⟨a, hrest⟩
      exact hatom a hrest
    · rintro ⟨a, rest'⟩ (hnil | ⟨-, hbraces⟩)
      · exact .bind fun x => .ok (.inl hnil)
      · exact .bind fun x => .ok (.inr hbraces)
  · exact hatom _ h
  · exact hatom _ h
  · exact hatom _ h
  · exact hatom _ h

/-! ## Inside a group -/

/-- The reader inside one more group, around all that are open. -/
def Reader.within (r : Reader) (g : OpenGroup) : Reader := { r with outer := r.outer ++ [g] }

variable {r} (g : OpenGroup)

/-- What was read inside one more group, with what is left. -/
def surround (p : Reader × List Char) : Reader × List Char := (p.1.within g, p.2)

theorem openNamed_within : openNamed (r.within g) cs = surround g <$> openNamed r cs := by
  unfold openNamed
  cases groupName [] cs with
  | error e => rfl
  | ok p =>
    change (if r.names.contains p.1 = true then _ else _) =
      surround g <$> (if r.names.contains p.1 = true then _ else _)
    by_cases h : r.names.contains p.1 = true
    · rw [if_pos h, if_pos h]
      rfl
    · rw [if_neg h, if_neg h]
      rfl

theorem switchFlags_within : switchFlags (r.within g) cs = surround g <$> switchFlags r cs := by
  unfold switchFlags
  simp only [Reader.within]
  cases readFlags r.flags [] false cs with
  | error e => rfl
  | ok p =>
    simp only [bind, Except.bind]
    split
    · rfl
    · split <;> rfl

theorem readGroup_within : readGroup (r.within g) cs = surround g <$> readGroup r cs := by
  unfold readGroup
  simp only [show (r.within g).flags = r.flags from rfl]
  generalize r.flags.skip cs = ds
  split
  · rfl
  · rfl
  · rfl
  · rfl
  · exact openNamed_within g
  · exact openNamed_within g
  · exact switchFlags_within g
  · rfl

theorem repeatLast_within (min : Nat) (max : Option Nat) (greedy : Bool) :
    (r.within g).repeatLast min max greedy = (·.within g) <$> r.repeatLast min max greedy := by
  obtain ⟨flags, ⟨branches, _ | ⟨_ | item, items⟩⟩, outer, groups, names⟩ := r <;> rfl

/-- A repetition of the last item, with what is left. -/
theorem repeated_within (min : Nat) (max : Option Nat) (greedy : Bool) :
    (do pure (← (r.within g).repeatLast min max greedy, cs)) =
      surround g <$> (do pure (← r.repeatLast min max greedy, cs) : Except Fault (Reader × List Char)) := by
  rw [repeatLast_within]
  cases r.repeatLast min max greedy <;> rfl

theorem closeBraces_within (min : Nat) (max : Option Nat) (cs : List Char) :
    closeBraces (r.within g) min max cs = surround g <$> closeBraces r min max cs := by
  unfold closeBraces
  split
  · split
    · rfl
    · exact repeated_within g min max _
  · rfl

theorem readBraces_within : readBraces (r.within g) cs = surround g <$> readBraces r cs := by
  unfold readBraces
  simp only [show (r.within g).flags = r.flags from rfl, map_bind]
  refine bind_congr fun p => ?_
  split
  · split
    · next es _ => exact closeBraces_within g p.1 none ('}' :: es)
    · rw [map_bind]
      exact bind_congr fun q => closeBraces_within g p.1 (some q.1) q.2
  · exact closeBraces_within g p.1 (some p.1) p.2

theorem closeGroup_within (h : r.outer ≠ []) : (r.within g).closeGroup = (·.within g) <$> r.closeGroup := by
  obtain ⟨flags, level, _ | ⟨o, outer⟩, groups, names⟩ := r
  · exact absurd rfl h
  · rfl

/-- A unit is read in the same way inside one more group, unless it closes that group. -/
theorem readUnit_within {c : Char} (h : c = ')' → r.outer ≠ []) :
    readUnit (r.within g) c cs = surround g <$> readUnit r c cs := by
  have hatom : ∀ (a : Atom) (ds : List Char),
      (do pure ((r.within g).push (← atomRegex r.flags a) 0, ds)) =
        surround g <$> (do pure (r.push (← atomRegex r.flags a) 0, ds) : Except Fault (Reader × List Char)) := by
    intro a ds
    cases atomRegex r.flags a <;> rfl
  unfold readUnit
  simp only [show (r.within g).flags = r.flags from rfl]
  split
  · exact readGroup_within g
  · rw [closeGroup_within g (h rfl)]
    cases r.closeGroup <;> rfl
  · rfl
  · cases bracketed r.flags cs <;> rfl
  · exact repeated_within g _ _ _
  · exact repeated_within g _ _ _
  · exact repeated_within g _ _ _
  · exact readBraces_within g
  · cases escape r.flags cs with
    | error e => rfl
    | ok p => exact hatom p.1 p.2
  · exact hatom _ _
  · exact hatom _ _
  · exact hatom _ _
  · exact hatom _ _

/-! ## Whole patterns -/

theorem readUnits_done (h : r.flags.skip cs = []) (budget : List Char) : readUnits r cs budget = .ok r := by
  cases budget with
  | nil => rfl
  | cons x budget => simp only [readUnits, h]

theorem readUnits_nil (r : Reader) (budget : List Char) : readUnits r [] budget = .ok r :=
  readUnits_done r.flags.skip_nil budget

theorem readUnits_paren (h : r.flags.skip cs = [')']) (x : Char) (budget : List Char) :
    readUnits r cs (x :: budget) = r.closeGroup := by
  simp only [readUnits, h]
  cases hr : r.closeGroup with
  | error e => simp [readUnit, hr, bind, Except.bind]
  | ok r' => simp [readUnit, hr, bind, Except.bind, pure, Except.pure, readUnits_nil]

theorem outer_ne_nil_of_readUnit {c : Char} {p : Reader × List Char} (h : readUnit r c cs = .ok p) (hc : c = ')') :
    r.outer ≠ [] := by
  subst hc
  intro hnil
  simp [readUnit, Reader.closeGroup, hnil, bind, Except.bind] at h

/-- The parenthesis was swallowed by a comment, by itself as well as inside the group, or it closes the innermost group
in both. -/
def Ends (r₁ : Reader) (x x' : Except Fault Reader) : Prop :=
  x = .ok r₁ ∧ x' = .ok (r₁.within g) ∨ x = r₁.closeGroup ∧ x' = (r₁.within g).closeGroup

/-- Where one text has nothing but layout left, the other has that or the parenthesis. -/
theorem readUnits_ended {alone inside : List Char} (hclosed : Closed cs cs') (h : r.flags.skip cs = [])
    (ha : 0 < alone.length) (hi : 0 < inside.length) :
    Ends g r (readUnits r cs' alone) (readUnits (r.within g) cs' inside) := by
  obtain ⟨x, alone, rfl⟩ := List.exists_cons_of_length_pos ha
  obtain ⟨y, inside, rfl⟩ := List.exists_cons_of_length_pos hi
  have hleft : Left cs.length cs cs' := ⟨hclosed, Nat.le_refl _⟩
  rcases (hleft.skip r.flags).nil_or_cons with ⟨-, hs | hs⟩ | ⟨_, _, _, hs, -, -⟩
  · exact .inl ⟨readUnits_done hs _, readUnits_done (r := r.within g) hs _⟩
  · exact .inr ⟨readUnits_paren hs x alone, readUnits_paren (r := r.within g) hs y inside⟩
  · cases h.symm.trans hs

/-- A pattern that can be read is read in the same way where a parenthesis follows it, by itself and inside a group. -/
theorem readUnits_within {r₁ : Reader} (budget : List Char) : ∀ (r : Reader) {cs cs' alone inside : List Char},
    Closed cs cs' → cs.length ≤ budget.length → cs.length < alone.length → cs.length < inside.length →
      readUnits r cs budget = .ok r₁ → Ends g r₁ (readUnits r cs' alone) (readUnits (r.within g) cs' inside) := by
  induction budget with
  | nil =>
    intro r cs cs' alone inside hclosed hb ha hi h
    obtain rfl := List.length_eq_zero_iff.1 (Nat.le_zero.1 hb)
    cases h
    exact readUnits_ended g hclosed (Flags.skip_nil _) ha hi
  | cons x budget ih =>
    intro r cs cs' alone inside hclosed hb ha hi h
    have hleft : Left cs.length cs cs' := ⟨hclosed, Nat.le_refl _⟩
    rcases (hleft.skip r.flags).nil_or_cons with ⟨hs, -⟩ | ⟨c, ds, ds', hs, hs', hds⟩
    · rw [readUnits_done hs] at h
      cases h
      exact readUnits_ended g hclosed hs (Nat.zero_lt_of_lt ha) (Nat.zero_lt_of_lt hi)
    · have hle : ds.length + 1 ≤ cs.length := by simpa [hs] using (hleft.skip r.flags).le
      obtain ⟨y, alone, rfl⟩ := List.exists_cons_of_length_pos (Nat.zero_lt_of_lt ha)
      obtain ⟨z, inside, rfl⟩ := List.exists_cons_of_length_pos (Nat.zero_lt_of_lt hi)
      simp only [List.length_cons] at hb ha hi
      simp only [readUnits, hs] at h
      cases hu : readUnit r c ds with
      | error e => simp [hu, bind, Except.bind] at h
      | ok p =>
        obtain ⟨_, hu', ⟨r₂, hrest⟩⟩ := (readUnit_tracks r c ⟨hds.closed, Nat.le_refl ds.length⟩).forth hu
        have hinside : readUnit (r.within g) c ds' = surround g <$> readUnit r c ds' :=
          readUnit_within g (outer_ne_nil_of_readUnit hu)
        rw [hu'] at hinside
        rw [hu] at h
        -- the unit took a character at least, so what is left fits into the budgets again
        have hlen := hrest.le
        simp only [readUnits]
        rw [show (r.within g).flags.skip cs' = c :: ds' from hs', hs']
        simp only [hu', hinside]
        exact ih r₂ hrest.closed (by omega) (by omega) (by omega) h

theorem readBraces_empty (h : r.flags.skip cs = [')']) : readBraces r cs = .error .repetitionCount := by
  have hblank : isBlank ')' = false := by decide
  have hdigit : Char.isDigit ')' = false := by decide
  have hcount : readCount r.flags [')'] = .error .repetitionCount := by simp [readCount, digits, hblank, hdigit]
  simp [readBraces, h, hcount, bind, Except.bind]

theorem outer_closeGroup {r' : Reader} (h : r.closeGroup = .ok r') : r'.outer = r.outer.tail := by
  obtain ⟨flags, level, _ | ⟨o, outer⟩, groups, names⟩ := r
  · cases h
  · cases h
    rfl

/-- After a unit that was in vain, the group is never closed. -/
theorem VainUnit.outer_ne_nil {p : Reader × List Char} {r₁ : Reader} (hvain : VainUnit p) (budget : List Char)
    (h : readUnits (p.1.within g) p.2 budget = .ok r₁) : r₁.outer ≠ [] := by
  have hopen : (p.1.within g).outer ≠ [] := by simp [Reader.within]
  rcases hvain with hnil | ⟨inner, hrest, hskip⟩
  · rw [hnil, readUnits_nil] at h
    cases h
    exact hopen
  · cases budget with
    | nil =>
      cases h
      exact hopen
    | cons x budget =>
      have hbraces : readBraces (p.1.within g) inner = .error .repetitionCount := readBraces_empty hskip
      rw [hrest] at h
      simp [readUnits, Flags.skip_brace, readUnit, hbraces, bind, Except.bind] at h

/-- A pattern that can be read inside a group that the parenthesis after it closes can be read by itself, unless it
closes a group that it did not open. -/
theorem readUnits_released {r₁ : Reader} (budget' : List Char) : ∀ (r : Reader) {cs cs' budget : List Char},
    Closed cs cs' → cs.length ≤ budget.length → readUnits (r.within g) cs' budget' = .ok r₁ → r₁.outer = [] →
      readUnits r cs budget = .error .unopenedGroup ∨ ∃ r₂, readUnits r cs budget = .ok r₂ ∧ r₂.outer = [] := by
  have hopen : ∀ r : Reader, (r.within g).outer ≠ [] := by simp [Reader.within]
  induction budget' with
  | nil =>
    intro r cs cs' budget _ _ h houter
    cases h
    exact absurd houter (hopen r)
  | cons x' budget' ih =>
    intro r cs cs' budget hclosed hb h houter
    have hleft : Left cs.length cs cs' := ⟨hclosed, Nat.le_refl _⟩
    rcases (hleft.skip r.flags).nil_or_cons with ⟨hs, hs' | hs'⟩ | ⟨c, ds, ds', hs, hs', hds⟩
    · rw [readUnits_done (r := r.within g) hs'] at h
      cases h
      exact absurd houter (hopen r)
    · -- the parenthesis is left, and closes the group only if no other is open
      rw [readUnits_paren (r := r.within g) hs'] at h
      rw [outer_closeGroup h, Reader.within] at houter
      refine .inr ⟨r, readUnits_done hs budget, ?_⟩
      cases ho : r.outer with
      | nil => rfl
      | cons o outer => simp [ho] at houter
    · have hle : ds.length + 1 ≤ cs.length := by simpa [hs] using (hleft.skip r.flags).le
      obtain ⟨x, budget, rfl⟩ := List.exists_cons_of_length_pos (Nat.lt_of_lt_of_le (Nat.zero_lt_of_lt hle) hb)
      simp only [List.length_cons] at hb
      simp only [readUnits] at h ⊢
      rw [show (r.within g).flags.skip cs' = c :: ds' from hs'] at h
      rw [hs]
      by_cases hslip : c = ')' ∧ r.outer = []
      · obtain ⟨rfl, hnil⟩ := hslip
        refine .inl ?_
        simp [readUnit, Reader.closeGroup, hnil, bind, Except.bind]
      · simp only at h
        rw [readUnit_within g fun hc ho => hslip ⟨hc, ho⟩] at h
        cases hu' : readUnit r c ds' with
        | error e =>
          rw [hu'] at h
          cases h
        | ok p =>
          rw [hu'] at h
          change readUnits (p.1.within g) p.2 budget' = .ok r₁ at h
          rcases (readUnit_tracks r c ⟨hds.closed, Nat.le_refl ds.length⟩).back hu' with hvain | ⟨_, hu, ⟨r₂, hrest⟩⟩
          · exact absurd houter (hvain.outer_ne_nil g budget' h)
          · simp only [hu]
            exact ih r₂ hrest.closed (Nat.le_trans hrest.le (by omega)) h houter

/-- Reads a pattern to its end, however deeply it nests. -/
def readPattern (cs : List Char) : Except Fault Item := do
  let r ← readUnits { flags := f } cs cs
  if !r.outer.isEmpty then .error .unclosedGroup else pure r.level.whole

theorem parse_eq (cs : List Char) : parse f cs = (do
    let w ← readPattern f cs
    if maxDepth < w.depth then .error .nestedTooDeeply else pure w.regex) := by
  unfold parse readPattern
  cases readUnits { flags := f } cs cs with
  | error e => rfl
  | ok r =>
    simp only [bind, Except.bind]
    split <;> rfl

theorem readPattern_ok_iff {w : Item} : readPattern f cs = .ok w ↔
    ∃ r, readUnits { flags := f } cs cs = .ok r ∧ r.outer = [] ∧ w = r.level.whole := by
  unfold readPattern
  cases readUnits { flags := f } cs cs with
  | error e => simp [bind, Except.bind]
  | ok r => cases ho : r.outer <;> simp [bind, Except.bind, pure, Except.pure, ho, eq_comm]

/-- The group around a pattern that must match where the text starts. -/
def atStart : OpenGroup := ⟨{ items := [some ⟨assertion .textStart, 0⟩] }, {}, none⟩

theorem readUnits_atStart (cs budget : List Char) :
    readUnits { flags := {} } ("\\A(?:".toList ++ cs) ('\\' :: 'A' :: budget) =
      readUnits (({ flags := {} } : Reader).within atStart) cs budget := by
  rfl

theorem readPattern_atStart (cs : List Char) : readPattern {} ("\\A(?:".toList ++ cs) = (do
    let r ← readUnits (({ flags := {} } : Reader).within atStart) cs ("(?:".toList ++ cs)
    if !r.outer.isEmpty then .error .unclosedGroup else pure r.level.whole) := by
  rw [← readUnits_atStart]
  rfl

/-- A pattern that can be read by itself either swallows a parenthesis after it, so that a group around it is not
closed, or is read as the same expression in a group after an assertion that the text starts. -/
theorem readPattern_enclosed {w : Item} (h : readPattern {} cs = .ok w) :
    readPattern {} (cs ++ [')']) = .ok w ∧
        readPattern {} ("\\A(?:".toList ++ (cs ++ [')'])) = .error .unclosedGroup ∨
      readPattern {} (cs ++ [')']) = .error .unopenedGroup ∧
        readPattern {} ("\\A(?:".toList ++ (cs ++ [')'])) =
          .ok ⟨concat [assertion .textStart, w.regex], w.depth + 2⟩ := by
  obtain ⟨r, hr, houter, rfl⟩ := (readPattern_ok_iff {}).1 h
  have halone : cs.length < (cs ++ [')']).length := by simp
  have hinside : cs.length < ("(?:".toList ++ (cs ++ [')'])).length := by
    rw [List.length_append]
    exact Nat.lt_add_left _ halone
  rw [readPattern_atStart, readPattern]
  rcases readUnits_within atStart cs _ (closed_append cs) (Nat.le_refl _) halone hinside hr with
    ⟨hself, hgroup⟩ | ⟨hself, hgroup⟩
  · left
    rw [hself, hgroup]
    simp [Reader.within, houter, bind, Except.bind, pure, Except.pure]
  · right
    rw [hself, hgroup]
    obtain ⟨flags, level, _ | _, groups, names⟩ := r
    · exact ⟨rfl, rfl⟩
    · cases houter

/-- A pattern that can be read in a group after an assertion that the text starts can be read by itself, unless it
closes a group that it did not open. -/
theorem readPattern_released {w : Item} (h : readPattern {} ("\\A(?:".toList ++ (cs ++ [')'])) = .ok w) :
    readPattern {} cs = .error .unopenedGroup ∨ ∃ w', readPattern {} cs = .ok w' := by
  obtain ⟨r, hr, houter, -⟩ := (readPattern_ok_iff {}).1 h
  have hgroup : readUnits (({ flags := {} } : Reader).within atStart) (cs ++ [')']) ("(?:".toList ++ (cs ++ [')'])) =
      .ok r := by
    rw [← readUnits_atStart]
    exact hr
  rcases readUnits_released atStart _ { flags := {} } (closed_append cs) (Nat.le_refl _) hgroup houter with
    herror | ⟨r', hr', houter'⟩
  · left
    rw [readPattern, herror]
    rfl
  · exact .inr ⟨_, (readPattern_ok_iff {}).2 ⟨r', hr', houter', rfl⟩⟩

theorem parse_ok_iff {e : Regex} : parse f cs = .ok e ↔
    ∃ w, readPattern f cs = .ok w ∧ w.depth ≤ maxDepth ∧ e = w.regex := by
  rw [parse_eq]
  cases readPattern f cs with
  | error e' => simp [bind, Except.bind]
  | ok w =>
    by_cases hdepth : maxDepth < w.depth
    · simp [bind, Except.bind, hdepth, Nat.not_le.2 hdepth]
    · simp [bind, Except.bind, pure, Except.pure, hdepth, Nat.not_lt.1 hdepth, eq_comm]

/-- A pattern that can be read by itself and in a group after an assertion that the text starts is read as the same
expression there. -/
theorem parse_enclosed {e e' : Regex} (h : parse {} cs = .ok e)
    (h' : parse {} ("\\A(?:".toList ++ (cs ++ [')'])) = .ok e') : e' = concat [assertion .textStart, e] := by
  obtain ⟨w, hw, -, rfl⟩ := (parse_ok_iff {}).1 h
  obtain ⟨w', hw', -, rfl⟩ := (parse_ok_iff {}).1 h'
  rcases readPattern_enclosed hw with ⟨-, herror⟩ | ⟨-, hok⟩
  · cases herror.symm.trans hw'
  · cases hok.symm.trans hw'
    rfl

end PatternLint.Regex
