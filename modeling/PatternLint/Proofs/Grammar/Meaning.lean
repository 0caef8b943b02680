import Mathlib.Data.List.Induction
import PatternLint.Grammar.Basic
import PatternLint.Proofs.Text.Position
import PatternLint.Text.Blank
/-!
# What a grammar means

`Derives` says what an expression of a grammar as written comes to at an offset of a text: `some q` if it succeeds and
ends at `q`, `none` if it fails. It knows names and no positions, and it has no limit on how deep rules may call one
another. What is ignored before a terminal is a relation too, `Skips`, which rests on `Derives` without skipping. At
each offset an expression comes to one thing at most (`Derives.unique`).

A grammar is built in steps, and `Meaning.ofSteps` reads off the steps what it means: a name stands for what it was
defined as last.
-/
namespace PatternLint

/-- What is given where a grammar is read: the text, what the names stand for, how many bytes a terminal matches at the
beginning of what is left, and what is skipped. -/
structure Meaning where
  text : List Char
  definition : String → Option (Expr String String)
  terminal : String → List Char → Option Nat
  ignored : List (Expr String String)
  skipBlanks : Bool

/-- What an expression comes to at an offset, where `lead` gives the offset at which a terminal is tried. -/
inductive Derives (s : Meaning) (lead : Nat → Nat → Prop) : Expr String String → Nat → Option Nat → Prop
  | empty {p : Nat} : Derives s lead .empty p (some p)
  | never {p : Nat} : Derives s lead .never p none
  | literal {word : List Char} {p q : Nat} : lead p q →
      Derives s lead (.literal word) p
        (if word.isPrefixOf (textFrom s.text q) then some (q + byteLength word) else none)
  | terminal {t : String} {p q : Nat} : lead p q →
      Derives s lead (.terminal t) p ((s.terminal t (textFrom s.text q)).map (q + ·))
  | any {p q : Nat} : lead p q → Derives s lead .any p ((textFrom s.text q).head?.map (q + ·.utf8Size))
  | seq {a b : Expr String String} {p q : Nat} {r : Option Nat} : Derives s lead a p (some q) →
      Derives s lead b q r → Derives s lead (.seq a b) p r
  | seq_fail {a b : Expr String String} {p : Nat} : Derives s lead a p none → Derives s lead (.seq a b) p none
  | choice_first {a b : Expr String String} {p q : Nat} : Derives s lead a p (some q) →
      Derives s lead (.choice a b) p (some q)
  | choice_second {a b : Expr String String} {p : Nat} {r : Option Nat} : Derives s lead a p none →
      Derives s lead b p r → Derives s lead (.choice a b) p r
  /-- All rounds that are allowed have been made. -/
  | rounds_full {e : Expr String String} {min p : Nat} :
      Derives s lead (.rounds e min (some 0)) p (if min = 0 then some p else none)
  | rounds_stop {e : Expr String String} {min : Nat} {max : Option Nat} {p : Nat} : max ≠ some 0 →
      Derives s lead e p none → Derives s lead (.rounds e min max) p (if min = 0 then some p else none)
  /-- A round that consumes nothing is the last and stands for all that are still asked for. -/
  | rounds_idle {e : Expr String String} {min : Nat} {max : Option Nat} {p : Nat} : max ≠ some 0 →
      Derives s lead e p (some p) → Derives s lead (.rounds e min max) p (some p)
  | rounds_more {e : Expr String String} {min : Nat} {max : Option Nat} {p q : Nat} {r : Option Nat} :
      max ≠ some 0 → Derives s lead e p (some q) → q ≠ p →
      Derives s lead (.rounds e (min - 1) (max.map (· - 1))) q r → Derives s lead (.rounds e min max) p r
  | ahead {e : Expr String String} {p : Nat} {r : Option Nat} : Derives s lead e p r →
      Derives s lead (.ahead e) p (r.map fun _ => p)
  | notAhead {e : Expr String String} {p : Nat} {r : Option Nat} : Derives s lead e p r →
      Derives s lead (.notAhead e) p (if r.isSome then none else some p)
  | rule {name : String} {e : Expr String String} {p : Nat} {r : Option Nat} : s.definition name = some e →
      Derives s lead e p r → Derives s lead (.rule name) p r

/-- Stepping over each of some regions in turn that stands at the offset reached. -/
inductive Regions (s : Meaning) : List (Expr String String) → Nat → Nat → Prop
  | nil {p : Nat} : Regions s [] p p
  | hit {e : Expr String String} {es : List (Expr String String)} {p q r : Nat} : Derives s Eq e p (some q) →
      Regions s es q r → Regions s (e :: es) p r
  | miss {e : Expr String String} {es : List (Expr String String)} {p r : Nat} : Derives s Eq e p none →
      Regions s es p r → Regions s (e :: es) p r

/-- Where the blanks end that are skipped at an offset. -/
def Meaning.blanksEnd (s : Meaning) (p : Nat) : Nat :=
  if s.skipBlanks then p + byteLength ((textFrom s.text p).takeWhile isBlank) else p

/-- Skipping blanks and regions, pass after pass, until one moves nothing. -/
inductive Skips (s : Meaning) : Nat → Nat → Prop
  | done {p : Nat} : Regions s s.ignored (s.blanksEnd p) p → Skips s p p
  | more {p q r : Nat} : Regions s s.ignored (s.blanksEnd p) q → q ≠ p → Skips s q r → Skips s p r

/-- Where a terminal is tried: past all that is skipped, or at the offset itself. -/
def Meaning.Lead (s : Meaning) (skipping : Bool) (p q : Nat) : Prop := if skipping then Skips s p q else p = q

/-! ## One outcome only -/

section Unique
variable {s : Meaning} {lead : Nat → Nat → Prop}

theorem Derives.unique (hlead : ∀ p q q', lead p q → lead p q' → q = q') {e : Expr String String} {p : Nat}
    {r : Option Nat} (h : Derives s lead e p r) : ∀ {r' : Option Nat}, Derives s lead e p r' → r = r' := by
  induction h with
  | empty => intro r' h'; cases h'; rfl
  | never => intro r' h'; cases h'; rfl
  | literal hl =>
    intro r' h'
    cases h' with
    | literal hl' => rw [hlead _ _ _ hl hl']
  | terminal hl =>
    intro r' h'
    cases h' with
    | terminal hl' => rw [hlead _ _ _ hl hl']
  | any hl =>
    intro r' h'
    cases h' with
    | any hl' => rw [hlead _ _ _ hl hl']
  | seq _ _ iha ihb =>
    intro r' h'
    cases h' with
    | seq ha hb => cases iha ha; exact ihb hb
    | seq_fail ha => cases iha ha
  | seq_fail _ iha =>
    intro r' h'
    cases h' with
    | seq ha _ => cases iha ha
    | seq_fail _ => rfl
  | choice_first _ iha =>
    intro r' h'
    cases h' with
    | choice_first ha => exact iha ha
    | choice_second ha _ => cases iha ha
  | choice_second _ _ iha ihb =>
    intro r' h'
    cases h' with
    | choice_first ha => cases iha ha
    | choice_second _ hb => exact ihb hb
  | rounds_full =>
    intro r' h'
    cases h' with
    | rounds_full => rfl
    | rounds_stop hm _ | rounds_idle hm _ | rounds_more hm _ _ _ => exact absurd rfl hm
  | rounds_stop hm _ ih =>
    intro r' h'
    cases h' with
    | rounds_full => exact absurd rfl hm
    | rounds_stop _ _ => rfl
    | rounds_idle _ he | rounds_more _ he _ _ => cases ih he
  | rounds_idle hm _ ih =>
    intro r' h'
    cases h' with
    | rounds_full => exact absurd rfl hm
    | rounds_stop _ he => cases ih he
    | rounds_idle _ _ => rfl
    | rounds_more _ he hne _ => cases ih he; exact absurd rfl hne
  | rounds_more hm _ hne _ ihe ihr =>
    intro r' h'
    cases h' with
    | rounds_full => exact absurd rfl hm
    | rounds_stop _ he => cases ihe he
    | rounds_idle _ he => cases ihe he; exact absurd rfl hne
    | rounds_more _ he _ hr => cases ihe he; exact ihr hr
  | ahead _ ih =>
    intro r' h'
    cases h' with
    | ahead he => rw [ih he]
  | notAhead _ ih =>
    intro r' h'
    cases h' with
    | notAhead he => rw [ih he]
  | rule hd _ ih =>
    intro r' h'
    cases h' with
    | rule hd' he =>
      rw [hd] at hd'
      cases hd'
      exact ih he

theorem Regions.unique {es : List (Expr String String)} {p q q' : Nat} (h : Regions s es p q)
    (h' : Regions s es p q') : q = q' := by
  have hbare : ∀ a b b' : Nat, a = b → a = b' → b = b' := fun _ _ _ h h' => h.symm.trans h'
  induction h with
  | nil => cases h'; rfl
  | hit hd _ ih =>
    cases h' with
    | hit hd' hr => cases hd.unique hbare hd'; exact ih hr
    | miss hd' _ => cases hd.unique hbare hd'
  | miss hd _ ih =>
    cases h' with
    | hit hd' _ => cases hd.unique hbare hd'
    | miss _ hr => exact ih hr

theorem Skips.unique {p q q' : Nat} (h : Skips s p q) (h' : Skips s p q') : q = q' := by
  induction h with
  | done hr =>
    cases h' with
    | done _ => rfl
    | more hr' hne _ => exact absurd (hr'.unique hr) hne
  | more hr hne _ ih =>
    cases h' with
    | done hr' => exact absurd (hr.unique hr') hne
    | more hr' _ hs => cases hr.unique hr'; exact ih hs

theorem Meaning.Lead.unique {skipping : Bool} {p q q' : Nat} (h : s.Lead skipping p q) (h' : s.Lead skipping p q') :
    q = q' := by
  cases skipping with
  | false => exact Eq.trans (Eq.symm h) h'
  | true => exact Skips.unique h h'

end Unique

/-! ## Building a grammar -/

/-- A step in building up a grammar. -/
inductive Grammar.Step where
  | define (name : String) (e : Expr String String)
  | nested (name opening closing : String)
  | ignore (e : Expr String String)
  | skippingBlanks (skip : Bool)

namespace Grammar.Step

/-- The grammar after a step. -/
def apply (g : Grammar) : Step → Grammar
  | define name e => g.define name e
  | nested name opening closing => g.nested name opening closing
  | ignore e => g.ignore e
  | skippingBlanks skip => g.skippingBlanks skip

/-- What the step defines a name as. -/
def definition? (name : String) : Step → Option (Expr String String)
  | define n e => if n = name then some e else none
  | nested n opening closing => if n = name then some (block n opening closing) else none
  | ignore _ | skippingBlanks _ => none

/-- The region that the step declares as ignored. -/
def region? : Step → Option (Expr String String)
  | ignore e => some e
  | define _ _ | nested _ _ _ | skippingBlanks _ => none

/-- Whether blanks are skipped, if the step sets it. -/
def blanks? : Step → Option Bool
  | skippingBlanks skip => some skip
  | define _ _ | nested _ _ _ | ignore _ => none

end Grammar.Step

/-- The grammar with a start expression and the given steps. -/
def Grammar.build (start : Expr String String) (steps : List Step) : Grammar := steps.foldl Step.apply { start }

/-- What was said by the last of the steps that say something. -/
def Grammar.latest {α : Type} (said : Step → Option α) (steps : List Step) : Option α := steps.reverse.findSome? said

/-- The meaning of a grammar in a text: a name stands for its latest definition, all regions that were declared are
ignored, and blanks are skipped if it was set so last. -/
def Meaning.ofSteps (steps : List Grammar.Step) (terminal : String → List Char → Option Nat) (text : List Char) :
    Meaning where
  text := text
  definition name := Grammar.latest (Grammar.Step.definition? name) steps
  terminal := terminal
  ignored := steps.filterMap Grammar.Step.region?
  skipBlanks := (Grammar.latest Grammar.Step.blanks? steps).getD false

namespace Grammar

variable (start : Expr String String)

theorem lookup_put (name n : String) (e : Expr String String) (rules : List (String × Expr String String)) :
    (put name e rules).lookup n = if n = name then some e else rules.lookup n := by
  induction rules with
  | nil =>
    by_cases h : n = name
    · simp [put, h]
    · simp [put, List.lookup_cons, h, beq_false_of_ne h]
  | cons r rules ih =>
    obtain ⟨k, d⟩ := r
    rw [put]
    by_cases hk : k = name
    · subst hk
      by_cases h : n = k
      · simp [h]
      · simp [List.lookup_cons, h, beq_false_of_ne h]
    · rw [if_neg hk, List.lookup_cons, List.lookup_cons, ih]
      by_cases h : n = k
      · simp [h, hk]
      · simp [beq_false_of_ne h]

theorem build_append (steps : List Step) (step : Step) :
    build start (steps ++ [step]) = step.apply (build start steps) := by
  simp [build]

theorem latest_append {α : Type} (said : Step → Option α) (steps : List Step) (step : Step) :
    latest said (steps ++ [step]) = (said step).or (latest said steps) := by
  rw [latest, latest, List.reverse_append, List.reverse_singleton, List.singleton_append, List.findSome?_cons]
  cases said step <;> rfl

/-- A name refers to its latest definition. -/
theorem build_lookup (steps : List Step) (name : String) :
    (build start steps).rules.lookup name = latest (Step.definition? name) steps := by
  induction steps using List.reverseRecOn with
  | nil => rfl
  | append_singleton steps step ih =>
    have hput : ∀ (n : String) (e : Expr String String),
        (put n e (build start steps).rules).lookup name =
          (if n = name then some e else none).or (latest (Step.definition? name) steps) := by
      intro n e
      rw [lookup_put, ih]
      by_cases h : name = n
      · simp [h]
      · simp [h, Ne.symm h]
    rw [build_append, latest_append]
    cases step with
    | define n e => exact hput n e
    | nested n opening closing => exact hput n _
    | ignore e => exact ih
    | skippingBlanks skip => exact ih

theorem build_ignored (steps : List Step) : (build start steps).ignored = steps.filterMap Step.region? := by
  induction steps using List.reverseRecOn with
  | nil => rfl
  | append_singleton steps step ih =>
    rw [build_append, List.filterMap_append, ← ih]
    cases step <;> simp [Step.apply, Step.region?, define, nested, ignore, skippingBlanks]

theorem build_skipBlanks (steps : List Step) :
    (build start steps).skipBlanks = (latest Step.blanks? steps).getD false := by
  induction steps using List.reverseRecOn with
  | nil => rfl
  | append_singleton steps step ih =>
    rw [build_append, latest_append]
    cases step with
    | skippingBlanks skip => rfl
    | define n e | nested n opening closing | ignore e => exact ih

end Grammar

end PatternLint
