import Guardrail.Document.Fields
import Guardrail.Text.Case

/-!
# Cloud resources

A resource with its identity, tags and recorded attributes. Tags and attributes are tables by
ascending key.
-/

namespace Guardrail

/-- A discovered cloud resource. -/
structure Resource where
  id : String
  name : String
  kind : String
  provider : String
  region : String
  account? : Option String
  tags : List (String × String)
  metadata : List (String × Json)
  deriving Repr, Inhabited

namespace Resource

/-- A resource that is named after its id. -/
def new (id kind provider : String) : Resource :=
  { id, name := id, kind, provider, region := "", account? := none, tags := [], metadata := [] }

/-- The table with `key` given a value, which replaces an earlier one. -/
def putTag (key value : String) : List (String × String) → List (String × String)
  | [] => [(key, value)]
  | (k, v) :: rest =>
    if key < k then (key, value) :: (k, v) :: rest
    else if key = k then (key, value) :: rest
    else (k, v) :: putTag key value rest

/-- The resource with a tag. -/
def withTag (r : Resource) (key value : String) : Resource :=
  { r with tags := putTag key value r.tags }

/-- The resource with a recorded attribute. -/
def withMetadata (r : Resource) (key : String) (value : Json) : Resource :=
  { r with metadata := Json.putMember key value r.metadata }

/-- The value of a tag. -/
def tag? (r : Resource) (key : String) : Option String :=
  r.tags.lookup key

/-- A table of texts as an object. -/
def tagsJson (tags : List (String × String)) : Json :=
  Json.ofMembers (tags.map fun (k, v) => (k, .text v))

/-- The names of a resource's fields in documents. -/
def fieldNames : List String :=
  ["id", "name", "type", "provider", "region", "account", "tags", "metadata"]

/-- The resource that a document describes. -/
def ofDocument? (d : Document) : Option Resource := do
  let f ← d.fields? fieldNames
  return {
    id := ← f.required? "id" Document.text?
    name := ← f.orElse? "name" "" Document.text?
    kind := ← f.required? "type" Document.text?
    provider := ← f.orElse? "provider" "" Document.text?
    region := ← f.orElse? "region" "" Document.text?
    account? := ← f.orElse? "account" none (Document.option? Document.text?)
    tags := ← f.orElse? "tags" [] Document.textTable?
    metadata := ← f.orElse? "metadata" [] fun d =>
      match d with
      | .map _ => d.toJson?.bind Json.members?
      | _ => none }

/-- The resource as a value. -/
def toJson (r : Resource) : Json :=
  Json.ofMembers <|
    [("id", .text r.id), ("name", .text r.name), ("type", .text r.kind),
      ("provider", .text r.provider), ("region", .text r.region),
      ("tags", tagsJson r.tags), ("metadata", Json.ofMembers r.metadata)] ++
    (r.account?.map fun a => ("account", Json.text a)).toList

end Resource

end Guardrail
