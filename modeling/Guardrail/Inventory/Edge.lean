import Guardrail.Document.Fields

/-!
# Relationships between resources

A directed edge between two resources, named by their ids, with the kind of the relationship.
-/

namespace Guardrail

/-- A relationship of one resource to another. -/
structure Edge where
  source : String
  target : String
  relationship : String
  deriving DecidableEq, Repr, Inhabited

/-- The edges of a resource that are asked for. -/
inductive Direction where
  | incoming
  | outgoing
  | both
  deriving DecidableEq, Repr, Inhabited

namespace Direction

/-- The direction with a name. -/
def ofName? : String → Option Direction
  | "incoming" => some .incoming
  | "outgoing" => some .outgoing
  | "both" => some .both
  | _ => none

/-- The direction that a document names. -/
def ofDocument? : Document → Option Direction :=
  Document.choice? ofName?

end Direction

namespace Edge

/-- The end of an edge that lies opposite to one of its ends. An edge from a resource to itself
leads back to it. -/
def otherEnd? (e : Edge) (id : String) : Option String :=
  if e.source = id then some e.target
  else if e.target = id then some e.source
  else none

/-- Whether an edge leads to or from a resource, as the direction says. -/
def touches (e : Edge) (id : String) : Direction → Bool
  | .incoming => e.target = id
  | .outgoing => e.source = id
  | .both => e.source = id || e.target = id

/-- The edge that a document describes. -/
def ofDocument? (d : Document) : Option Edge := do
  let f ← d.fields? ["source", "target", "relationshipType"]
  return {
    source := ← f.required? "source" Document.text?
    target := ← f.required? "target" Document.text?
    relationship := ← f.required? "relationshipType" Document.text? }

/-- The edge as a value. -/
def toJson (e : Edge) : Json :=
  Json.ofMembers
    [("source", .text e.source), ("target", .text e.target),
      ("relationshipType", .text e.relationship)]

theorem isSome_otherEnd? {e : Edge} {id : String} :
    (e.otherEnd? id).isSome = e.touches id .both := by
  unfold otherEnd? touches
  by_cases hs : e.source = id <;> by_cases ht : e.target = id <;> simp [hs, ht]

end Edge

end Guardrail
