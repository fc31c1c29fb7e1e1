import Guardrail.Yaml.Token

/-!
# Parts of YAML texts

What a text says before anyone reads it: words with the way they are written and the name of their
tag, lists, mappings, and copies of what an anchor has named. As a copy may stand in what it copies,
the content of a text is a graph.
-/

namespace Guardrail.Yaml

/-- A part of a text, under the name of its tag. -/
inductive Node where
  | words (style : Style) (name? : Option TagName) (text : String)
  | list (name? : Option TagName) (items : List Node)
  | map (name? : Option TagName) (entries : List (Node × Node))
  /-- The content of the anchor at a place once more. -/
  | copy (place : Nat)
  deriving Repr, Inhabited

/-- The anchors of a text. The place of an anchor is the number of names given before it; a name
that is given anew does not count again, so that the next new name comes to the same place. Of the
anchors at one place the last one counts. -/
structure Anchors where
  /-- The place of each name. -/
  places : List (String × Nat)
  /-- For each anchor its place and its number, the last one first. -/
  numbers : List (Nat × Nat)
  /-- What an anchor of a number has named. -/
  contents : List (Nat × Node)
  deriving Repr, Inhabited

namespace Anchors

/-- No anchors. -/
def none : Anchors := ⟨[], [], []⟩

/-- The number of anchors that have begun, which numbers the next one. -/
def size (a : Anchors) : Nat := a.numbers.length

/-- The anchors with one more, which gives a name to what follows. -/
def begin (a : Anchors) (name : String) : Anchors :=
  let place := a.places.length
  { a with
    places := (name, place) :: a.places.filter (·.1 ≠ name)
    numbers := (place, a.size) :: a.numbers }

/-- The anchors behind the content of one of them. -/
def finish (a : Anchors) (number : Nat) (content : Node) : Anchors :=
  { a with contents := (number, content) :: a.contents }

/-- What stands at a place. -/
def content? (a : Anchors) (place : Nat) : Option Node :=
  (a.numbers.lookup place).bind fun number => a.contents.lookup number

end Anchors

/-- The content of a text. -/
structure Graph where
  root : Node
  anchors : Anchors
  /-- The number of texts, of copies, and of beginnings and ends of lists and mappings. -/
  parts : Nat
  deriving Repr, Inhabited

end Guardrail.Yaml
