import PatternLint.Text.Cursor
/-!
# Grammar expressions

The expressions of a parsing expression grammar. `τ` stands for its terminals other than words, and `ρ` for how
rules are referred to: a grammar as written has patterns and names, one made ready to run has programs and
positions.
-/
namespace PatternLint

/-- An expression over terminals `τ` and rule references `ρ`. -/
inductive Expr (τ ρ : Type) where
  /-- Succeeds without consuming. -/
  | empty
  /-- Fails. -/
  | never
  /-- Exactly these characters. -/
  | literal (word : List Char)
  | terminal (t : τ)
  /-- Any one character. -/
  | any
  | seq (first second : Expr τ ρ)
  /-- The second is tried only where the first fails. -/
  | choice (first second : Expr τ ρ)
  /-- As many rounds as succeed, up to `max`; fewer than `min` are a failure. -/
  | rounds (e : Expr τ ρ) (min : Nat) (max : Option Nat)
  /-- Succeeds without consuming where `e` succeeds. -/
  | ahead (e : Expr τ ρ)
  /-- Succeeds without consuming where `e` fails. -/
  | notAhead (e : Expr τ ρ)
  | rule (r : ρ)
deriving DecidableEq, Repr

namespace Expr

variable {τ ρ τ' ρ' ε : Type}

/-- All expressions in order. -/
def all : List (Expr τ ρ) → Expr τ ρ
  | [] => empty
  | [e] => e
  | e :: es => seq e (all es)

/-- The first expression that succeeds. -/
def first : List (Expr τ ρ) → Expr τ ρ
  | [] => never
  | [e] => e
  | e :: es => choice e (first es)

def zeroOrMore (e : Expr τ ρ) : Expr τ ρ := e.rounds 0 none

def oneOrMore (e : Expr τ ρ) : Expr τ ρ := e.rounds 1 none

def optional (e : Expr τ ρ) : Expr τ ρ := e.rounds 0 (some 1)

/-- Replaces terminals and references, from left to right; the first that is refused decides. -/
def resolve (onTerminal : τ → Except ε τ') (onRule : ρ → Except ε ρ') : Expr τ ρ → Except ε (Expr τ' ρ')
  | empty => .ok empty
  | never => .ok never
  | literal word => .ok (literal word)
  | terminal t => terminal <$> onTerminal t
  | any => .ok any
  | seq a b => do
    let a ← a.resolve onTerminal onRule
    let b ← b.resolve onTerminal onRule
    pure (seq a b)
  | choice a b => do
    let a ← a.resolve onTerminal onRule
    let b ← b.resolve onTerminal onRule
    pure (choice a b)
  | rounds e min max => do
    let e ← e.resolve onTerminal onRule
    pure (rounds e min max)
  | ahead e => ahead <$> e.resolve onTerminal onRule
  | notAhead e => notAhead <$> e.resolve onTerminal onRule
  | rule r => rule <$> onRule r

/-- Whether the expression can succeed without consuming, given which terminals and rules can. -/
def nullable (onTerminal : τ → Bool) (onRule : ρ → Bool) : Expr τ ρ → Bool
  | empty | ahead _ | notAhead _ => true
  | never | any => false
  | literal word => word.isEmpty
  | terminal t => onTerminal t
  | seq a b => a.nullable onTerminal onRule && b.nullable onTerminal onRule
  | choice a b => a.nullable onTerminal onRule || b.nullable onTerminal onRule
  | rounds e min _ => min == 0 || e.nullable onTerminal onRule
  | rule r => onRule r

/-- The rules that may be called before anything is consumed, from left to right. -/
def leftmost (onTerminal : τ → Bool) (onRule : ρ → Bool) : Expr τ ρ → List ρ
  | empty | never | any | literal _ | terminal _ => []
  | seq a b =>
    if a.nullable onTerminal onRule then a.leftmost onTerminal onRule ++ b.leftmost onTerminal onRule
    else a.leftmost onTerminal onRule
  | choice a b => a.leftmost onTerminal onRule ++ b.leftmost onTerminal onRule
  | rounds e _ _ | ahead e | notAhead e => e.leftmost onTerminal onRule
  | rule r => [r]

end Expr

end PatternLint
