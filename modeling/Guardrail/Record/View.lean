import Guardrail.Inventory.Resource

/-!
# The resource in a record

Some conditions read fixed attributes of the resource that a change is about. They come from the
member `resource` of the record if that is an object, else from the record itself.
-/

namespace Guardrail

/-- The attributes of a resource that conditions read directly. -/
structure ResourceView where
  kind? : Option String
  provider? : Option String
  region? : Option String
  tags : List (String × String)
  deriving DecidableEq, Repr, Inhabited

namespace ResourceView

/-- The value that describes the resource of a record. -/
def source (record : Json) : Json :=
  match record.member? "resource" with
  | some (.object members) => .object members
  | _ => record

/-- The first of several members that is a text. -/
def firstText? (source : Json) (names : List String) : Option String :=
  names.findSome? fun name => (source.member? name).bind Json.text?

/-- The view of the resource that a record describes; a tag whose value is no text, number or
truth value is left out. -/
def ofRecord (record : Json) : ResourceView :=
  let source := source record
  let tags := ((source.member? "tags").bind Json.members?).getD []
  { kind? := firstText? source ["type", "resourceType", "resource_type"]
    provider? := firstText? source ["provider"]
    region? := firstText? source ["region"]
    tags := tags.filterMap fun (k, v) => v.scalarText?.map (k, ·) }

/-- The view of a known resource. -/
def ofResource (r : Resource) : ResourceView :=
  { kind? := some r.kind, provider? := some r.provider, region? := some r.region, tags := r.tags }

/-- The value of a tag. -/
def tag? (v : ResourceView) (key : String) : Option String :=
  v.tags.lookup key

end ResourceView

end Guardrail
