import PatternLint.Regex.Automaton.Tally
/-!
# Automata of texts

Alternatives that are all texts share their beginnings in a tree. The order of preference is kept: edges that stand
before a place where a text ends belong to texts that are preferred to it, and are not shared with later texts.
-/
namespace PatternLint.Regex.Automaton

/-- A node of the tree: its edges and the ends of texts, in order of preference. -/
inductive Trie where
  | nil
  /-- An edge with the node that it leads to. -/
  | edge (byte : Nat) (below rest : Trie)
  /-- A text ends here. -/
  | stop (rest : Trie)
deriving DecidableEq, Repr

namespace Trie

/-- Whether a text ends at this node. -/
def hasStop : Trie → Bool
  | nil => false
  | edge _ _ rest => rest.hasStop
  | stop _ => true

/-- Whether no edge leaves this node. -/
def isLeaf : Trie → Bool
  | nil => true
  | edge _ _ _ => false
  | stop rest => rest.isLeaf

/-- The tree of one text. -/
def path : List Nat → Trie
  | [] => stop nil
  | b :: bs => edge b (path bs) nil

/-- Adds a text. `bare` says that no edge was passed at this node: a text that ends where nothing follows is added
once. -/
def insert (bare : Bool) (text : List Nat) : Trie → Trie
  | nil => path text
  | stop rest => if bare && text.isEmpty && rest.isLeaf then stop rest else stop (rest.insert bare text)
  | edge b below rest =>
    if rest.hasStop then edge b below (rest.insert false text)
    else match text with
      | [] => edge b below (rest.insert false [])
      | x :: xs =>
        if x < b then edge x (path xs) (edge b below rest)
        else if x = b then edge b (below.insert true xs) rest
        else edge b below (rest.insert false (x :: xs))

/-- Makes a state for `edges` edges side by side, if there are any; gives the ways on from the node so far. -/
def addEdges (edges ways : Nat) : Builder Nat :=
  match edges with
  | 0 => pure ways
  | 1 => do
    addPlain
    pure (ways + 1)
  | n => do
    let _ ← add (edgeBytes * n)
    pure (ways + 1)

/-- Makes the states of a node and of those below it. -/
def addNode (edges ways : Nat) : Trie → Builder Unit
  | nil => do
    let ways ← addEdges edges ways
    let _ ← add (wayBytes * ways)
  | stop rest => do
    let ways ← addEdges edges ways
    rest.addNode 0 (ways + 1)
  | edge _ below rest => do
    if !below.isLeaf then below.addNode 0 0
    rest.addNode (edges + 1) ways

/-- The automaton of a tree. -/
def build (t : Trie) : Builder Unit := do
  addPlain
  t.addNode 0 0

/-- The tree of texts in order of preference. -/
def ofTexts (texts : List (List Nat)) : Trie := texts.foldl (fun t text => t.insert true text) nil

end Trie

end PatternLint.Regex.Automaton
