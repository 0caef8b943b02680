import PatternLint.Grammar.Expr
/-!
# Grammars

A grammar has a start expression, named rules, expressions for regions that are stepped over as if they were not
there, and a setting for blanks. It is built up step by step, and a rule defined twice means the later definition.
-/
namespace PatternLint

/-- A grammar as written: terminals are patterns and rules are named. -/
structure Grammar where
  start : Expr String String
  rules : List (String × Expr String String) := []
  ignored : List (Expr String String) := []
  /-- Whether blanks before a terminal are skipped. -/
  skipBlanks : Bool := false
deriving DecidableEq, Repr

namespace Grammar

/-- Puts a definition in the place of the one with its name, or at the end. -/
def put (name : String) (e : Expr String String) :
    List (String × Expr String String) → List (String × Expr String String)
  | [] => [(name, e)]
  | (n, d) :: rules => if n = name then (n, e) :: rules else (n, d) :: put name e rules

/-- Defines a rule, or defines it anew. -/
def define (g : Grammar) (name : String) (e : Expr String String) : Grammar :=
  { g with rules := put name e g.rules }

/-- The body of a block between two words that may hold further blocks of the rule's name. -/
def block (name opening closing : String) : Expr String String :=
  let word (s : String) : Expr String String := .literal s.toList
  let filler := Expr.all [.notAhead (word opening), .notAhead (word closing), .any]
  .all [word opening, (Expr.choice (.rule name) filler).zeroOrMore, word closing]

/-- Defines a rule as a balanced block, which may nest. -/
def nested (g : Grammar) (name opening closing : String) : Grammar := g.define name (block name opening closing)

/-- Declares a region that terminals and the search step over. -/
def ignore (g : Grammar) (e : Expr String String) : Grammar := { g with ignored := g.ignored ++ [e] }

/-- Sets whether blanks before a terminal are skipped. -/
def skippingBlanks (g : Grammar) (skip : Bool) : Grammar := { g with skipBlanks := skip }

end Grammar

end PatternLint
