/-!
# Tries

Alternatives that are texts share what they have in common at the start. As earlier alternatives
are preferred, a text that ends in a node divides its transitions: what is added later stands behind
the end and shares nothing with what was added earlier.
-/

namespace Guardrail.Pattern

/-- A node: the transitions in front of each text that ends in it, and those behind all of them. -/
inductive Trie where
  | node (closed : List (List (Nat × Trie))) (active : List (Nat × Trie))
  deriving Repr, Inhabited

namespace Trie

/-- The node without transitions. -/
def empty : Trie := .node [] []

/-- Whether a node has no transitions. -/
def isLeaf : Trie → Bool
  | .node closed active => closed.all (·.isEmpty) && active.isEmpty

/-- A text ends in a node. A further one in a node without transitions changes nothing. -/
def finish : Trie → Trie
  | .node closed active =>
    if !closed.isEmpty && isLeaf (.node closed active) then .node closed active
    else .node (closed ++ [active]) []

/-- The transitions with the one of a byte changed, in ascending order. -/
def alter (b : Nat) (f : Trie → Trie) : List (Nat × Trie) → List (Nat × Trie)
  | [] => [(b, f empty)]
  | (c, t) :: ts =>
    if b < c then (b, f empty) :: (c, t) :: ts
    else if b = c then (c, f t) :: ts
    else (c, t) :: alter b f ts

/-- A node with one more text. -/
def insert : List Nat → Trie → Trie
  | [], t => t.finish
  | b :: bs, .node closed active => .node closed (alter b (insert bs) active)

/-- The node of several texts, in the order in which they are preferred. -/
def ofTexts (texts : List (List Nat)) : Trie :=
  texts.foldl (fun t text => t.insert text) empty

end Trie

end Guardrail.Pattern
