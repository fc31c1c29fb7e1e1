import Guardrail.Failure
import Guardrail.Inventory.Edge
import Guardrail.Inventory.Filter

/-!
# Resource graphs

A graph lists resources and the edges between them. An edge may lead to a resource that is not
listed, and of two resources with one id the first counts. Who reads a graph sees a `GraphSource`,
whose answers may fail.
-/

namespace Guardrail

/-- Read access to a resource graph. -/
structure GraphSource where
  /-- The resources that a filter lets through. -/
  query : ResourceFilter → Except Failure (List Resource)
  /-- The edges of the resource with an id. -/
  edges : String → Direction → Except Failure (List Edge)
  /-- The resource with an id. -/
  find? : String → Except Failure (Option Resource)

/-- A resource graph in memory. -/
structure Graph where
  resources : List Resource
  edges : List Edge
  deriving Repr, Inhabited

namespace Graph

/-- The graph without resources. -/
def empty : Graph := { resources := [], edges := [] }

/-- The graph with a further resource. -/
def addResource (g : Graph) (r : Resource) : Graph :=
  { g with resources := g.resources ++ [r] }

/-- The graph with a further edge. -/
def addEdge (g : Graph) (e : Edge) : Graph :=
  { g with edges := g.edges ++ [e] }

/-- The resources that a filter lets through. -/
def query (g : Graph) (f : ResourceFilter) : List Resource :=
  g.resources.filter f.accepts

/-- The edges of the resource with an id. -/
def edgesOf (g : Graph) (id : String) (direction : Direction) : List Edge :=
  g.edges.filter (·.touches id direction)

/-- The first resource with an id. -/
def find? (g : Graph) (id : String) : Option Resource :=
  g.resources.find? (·.id = id)

/-- The graph for its readers; no answer fails. -/
def source (g : Graph) : GraphSource :=
  { query := fun f => .ok (g.query f)
    edges := fun id direction => .ok (g.edgesOf id direction)
    find? := fun id => .ok (g.find? id) }

end Graph

end Guardrail
