import PatternLint.Grammar.Expr
/-!
# Left recursion

A rule that can reach itself before anything is consumed would never end. The rules that can succeed without
consuming are found by rounds of approximation from below, and then a depth-first walk looks for a rule that
reaches itself through leftmost calls.
-/
namespace PatternLint.LeftRecursion

variable {τ : Type} {n : Nat}

/-- One round: a rule counts as nullable if it did before or is by what was known. -/
def grow (onTerminal : τ → Bool) (rules : Vector (Expr τ (Fin n)) n) (known : Vector Bool n) : Vector Bool n :=
  Vector.ofFn fun i => known[i] || rules[i].nullable onTerminal fun j => known[j]

/-- The rules that can succeed without consuming. Every round but the last finds one more, so that as many rounds
as there are rules are enough. -/
def nullableRules (onTerminal : τ → Bool) (rules : Vector (Expr τ (Fin n)) n) : Vector Bool n :=
  Nat.repeat (grow onTerminal rules) n (Vector.replicate n false)

/-- Walks on from rule `i`, where `active` are the rules on the way to it and `finished` those done with. Gives
the rules done with then, or a rule that reaches itself. The way never repeats a rule, so that their number is
enough `fuel`. -/
def visit (edges : Fin n → List (Fin n)) : (fuel : Nat) → (active finished : List (Fin n)) → Fin n →
    Except (Fin n) (List (Fin n))
  | 0, _, finished, _ => .ok finished
  | fuel + 1, active, finished, i => do
    let finished ← (edges i).foldlM (fun finished j =>
      if (i :: active).contains j then .error j
      else if finished.contains j then .ok finished
      else visit edges fuel (i :: active) finished j) finished
    pure (i :: finished)

/-- Walks on from each of several rules in order, except those done with. -/
def visitAll (edges : Fin n → List (Fin n)) (finished : List (Fin n)) (roots : List (Fin n)) :
    Except (Fin n) (List (Fin n)) :=
  roots.foldlM (fun finished i =>
    if finished.contains i then .ok finished else visit edges n [] finished i) finished

/-- A left-recursive rule, if there is one; the rules that the start expression calls first are tried first. -/
def find? (onTerminal : τ → Bool) (start : Expr τ (Fin n)) (rules : Vector (Expr τ (Fin n)) n) : Option (Fin n) :=
  let known := nullableRules onTerminal rules
  let leftmost (e : Expr τ (Fin n)) := e.leftmost onTerminal fun j => known[j]
  match visitAll (fun i => leftmost rules[i]) [] (leftmost start ++ List.finRange n) with
  | .ok _ => none
  | .error i => some i

end PatternLint.LeftRecursion
