import PatternLint.Regex.Automaton.Sets
import PatternLint.Regex.Automaton.Trie
import PatternLint.Regex.Basic
/-!
# The size of a pattern's automata

A search needs two automata: one reads forwards and finds where a match ends, the other reads backwards and finds where
it began. A pattern whose automata do not both fit in the allowed memory is refused.
-/
namespace PatternLint.Regex

/-- The least number of characters that a match consumes; not known if some set in the expression has none. -/
def leastLength? : Regex → Option Nat
  | empty | assertion _ => some 0
  | literal text => some text.length
  | set s _ => if s.ranges.isEmpty then none else some 1
  | seq a b => do pure ((← a.leastLength?) + (← b.leastLength?))
  | alt a b => do pure (min (← a.leastLength?) (← b.leastLength?))
  | times r min _ _ => r.leastLength?.map (· * min)
  | group _ r => r.leastLength?

/-- Whether a match can only end where the text ends. -/
def endsText : Regex → Bool
  | assertion .textEnd => true
  | seq a b => b.endsText || (b.consumesNothing && a.endsText)
  | alt a b => a.endsText && b.endsText
  | times r min _ _ => 0 < min && r.endsText
  | group _ r => r.endsText
  | _ => false

/-- The bytes of a text. -/
def textBytes (text : List Char) : List Nat := text.flatMap fun c => CharSet.codeBytes c.toNat

/-- The text of an expression that is one, as bytes. -/
def bytes? : Regex → Option (List Nat)
  | literal text => some (textBytes text)
  | _ => none

namespace Automaton

/-- Where an expression stands among alternatives. -/
inductive Place where
  /-- It is no later alternative. -/
  | first
  | second
  | later
deriving DecidableEq, Repr

/-- Connects an alternative. The fork before the alternatives and the state after them are made once two of them are. -/
def closeBranch (place : Place) (forked : Bool) : Builder Bool := do
  match place with
  | .first => pure forked
  | .second =>
    addPlain
    addPlain
    grow (2 * wayBytes)
    link forked
    pure false
  | .later =>
    grow wayBytes
    link forked
    pure false

/-- Makes the automaton of an expression. The result says whether it is left by a fork. -/
def build (backward : Bool) (r : Regex) (place : Place) : Builder Bool :=
  match r with
  | .empty | .assertion _ => do
    addPlain
    closeBranch place false
  | .literal text => do
    let _ ← copies (do addPlain; pure false) (textBytes text).length false
    closeBranch place false
  | .set s _ => do
    addSet backward s
    closeBranch place false
  | .group _ r => do
    if backward then closeBranch place (← build backward r .first)
    else
      addPlain
      let forked ← build backward r .first
      addPlain
      link forked
      closeBranch place false
  | .seq a b => do
    if backward then
      link (← build backward b .first)
      closeBranch place (← build backward a .first)
    else
      link (← build backward a .first)
      closeBranch place (← build backward b .first)
  | .alt a b =>
    match place with
    | .first =>
      match (branches (.alt a b)).mapM bytes? with
      | some texts => do
        (Trie.ofTexts (if backward then texts.map List.reverse else texts)).build
        pure false
      | none => do
        link (← build backward a .first)
        build backward b .second
    | place => do
      let _ ← closeBranch place (← build backward a .first)
      build backward b .later
  | .times r min max _ => do
    let part := build backward r .first
    let forked ← match min, max with
      | 0, none =>
        if r.leastLength?.any (0 < ·) then do
          let _ ← add wayBytes
          link (← part)
          pure true
        else do
          link (← part)
          let _ ← add (2 * wayBytes)
          let _ ← add (2 * wayBytes)
          addPlain
          pure false
      | min + 1, none => do
        link (← copies part (min + 1) false)
        let _ ← add wayBytes
        pure true
      | 0, some 1 => do
        let forked ← options part 1 false
        addPlain
        link forked
        pure false
      | min, some max =>
        if min = max && 0 < min then copies part min false
        else do
          let forked ← if min = 0 then do addPlain; pure false else copies part min false
          if min < max then
            addPlain
            link (← options part (max - min) forked)
          pure false
    closeBranch place forked

/-- Makes the automaton of a pattern, with a loop before it unless a match has to begin at the edge of the text. -/
def whole (backward : Bool) (r : Regex) : Builder Unit := do
  if (if backward then r.endsText else r.startsText) then addPlain
  else
    let _ ← add (2 * wayBytes)
    addPlain
    let _ ← add edgeBytes
  let forked ← build backward (if backward then r else .group 0 r) .first
  addPlain
  link forked

/-- At least as many bytes as either automaton of an expression takes. -/
def bound : Regex → Nat
  | .empty | .assertion _ => stateBytes
  | .literal text => 80 * (textBytes text).length
  | .set s _ => setBound s
  | .seq a b => bound a + bound b + wayBytes
  | .alt a b => bound a + bound b + 80
  | .times r min none _ => max min 1 * (bound r + wayBytes) + 4 * stateBytes
  | .times r _ (some max) _ => max * (bound r + 44) + 3 * stateBytes
  | .group _ r => bound r + 2 * stateBytes + wayBytes

end Automaton

/-- Whether both automata of a pattern fit in the allowed memory. Most patterns are far below it, so that nothing need
be counted. -/
def fits (r : Regex) : Bool :=
  Automaton.bound r + 8 * Automaton.stateBytes ≤ Automaton.maxBytes ||
    ((Automaton.whole false r).run {}).isSome && ((Automaton.whole true r).run {}).isSome

end PatternLint.Regex
