import Guardrail.Inventory.Graph
import Guardrail.Text.Blank
import Guardrail.Text.Case
import Guardrail.Text.Names
import Guardrail.Text.Search

/-!
# Contexts

What a control sees of a resource: the resource, its edges in both directions, and the resources at
their other ends. Kinds of relationships are compared in a normal spelling.
-/

namespace Guardrail.Compliance

/-- A kind of relationship in its normal spelling: no blanks around it, small letters, and a dash
for each underscore. -/
def normalKind (kind : String) : String :=
  String.ofList ((Text.trim kind.toList).map fun c => if c = '_' then '-' else c.toLower)

/-- A resource with its direct relationships. -/
structure Context where
  resource : Resource
  edges : List Edge
  neighbours : List Resource
  deriving Repr, Inhabited

namespace Context

/-- A resource without relationships. -/
def alone (r : Resource) : Context :=
  { resource := r, edges := [], neighbours := [] }

/-- The ids at the other ends of a resource's edges, each once and in the order of the edges; the
resource itself is not among them. -/
def neighbourIds (id : String) (edges : List Edge) : List String :=
  ((edges.filterMap (·.otherEnd? id)).filter (· ≠ id)).eraseDups

/-- The context of a resource in a graph. Neighbours that the graph does not list are left out. -/
def build (graph : GraphSource) (r : Resource) : Except Failure Context := do
  let edges ← graph.edges r.id .both
  let found ← (neighbourIds r.id edges).mapM graph.find?
  return { resource := r, edges, neighbours := found.filterMap id }

/-- The kinds of a resource's relationships in their normal spelling, ascending. -/
def relationships (ctx : Context) : List String :=
  Text.nameSet (ctx.edges.map fun e => normalKind e.relationship)

/-- Whether a resource has a relationship of a kind. -/
def hasEdge (ctx : Context) (kind : String) : Bool :=
  normalKind kind ∈ ctx.relationships

/-- Whether the type of a neighbour contains a fragment, up to the case of its letters. -/
def hasNeighbour (ctx : Context) (fragment : String) : Bool :=
  ctx.neighbours.any fun r => Text.occurs (Text.lower fragment).toList (Text.lower r.kind).toList

/-- The value of one of the resource's tags. -/
def tag? (ctx : Context) (key : String) : Option String :=
  ctx.resource.tag? key

/-- The value of one of the resource's attributes. -/
def attribute? (ctx : Context) (key : String) : Option Json :=
  ctx.resource.metadata.lookup key

/-- The values of those of several attributes that the resource has. -/
def attributes (ctx : Context) (keys : List String) : List Json :=
  keys.filterMap ctx.attribute?

theorem hasEdge_iff {ctx : Context} {kind : String} :
    ctx.hasEdge kind ↔ ∃ e ∈ ctx.edges, normalKind e.relationship = normalKind kind := by
  simp [hasEdge, relationships]

end Context

end Guardrail.Compliance
