import Guardrail.Inventory.Resource

/-!
# Filters

A filter restricts a query to resources with a given provider, region or account, or with one of
several types. Names are compared exactly.
-/

namespace Guardrail

/-- The restrictions of a query; one that is missing lets every resource through. -/
structure ResourceFilter where
  provider? : Option String
  kinds? : Option (List String)
  region? : Option String
  account? : Option String
  deriving DecidableEq, Repr, Inhabited

namespace ResourceFilter

/-- The filter that lets every resource through. -/
def all : ResourceFilter :=
  { provider? := none, kinds? := none, region? := none, account? := none }

/-- The filter restricted to a provider. -/
def withProvider (f : ResourceFilter) (provider : String) : ResourceFilter :=
  { f with provider? := some provider }

/-- The filter restricted to resource types. -/
def withKinds (f : ResourceFilter) (kinds : List String) : ResourceFilter :=
  { f with kinds? := some kinds }

/-- Whether a filter lets a resource through. -/
def accepts (f : ResourceFilter) (r : Resource) : Bool :=
  f.provider?.all (· == r.provider) && f.kinds?.all (·.contains r.kind) &&
    f.region?.all (· == r.region) && f.account?.all (r.account? == some ·)

/-- The filter that a document describes. -/
def ofDocument? (d : Document) : Option ResourceFilter := do
  let f ← d.fields? ["provider", "resourceTypes", "region", "account"]
  let text? (name : String) := f.orElse? name none (Document.option? Document.text?)
  return {
    provider? := ← text? "provider"
    kinds? := ← f.orElse? "resourceTypes" none (Document.option? (Document.list? Document.text?))
    region? := ← text? "region"
    account? := ← text? "account" }

/-- The filter as a value. -/
def toJson (f : ResourceFilter) : Json :=
  let text (name : String) (x? : Option String) : List (String × Json) :=
    (x?.map fun x => (name, Json.text x)).toList
  Json.ofMembers <|
    text "provider" f.provider? ++
    (f.kinds?.map fun ks => ("resourceTypes", Json.array (ks.map Json.text))).toList ++
    text "region" f.region? ++ text "account" f.account?

@[simp] theorem accepts_all (r : Resource) : all.accepts r = true := rfl

end ResourceFilter

end Guardrail
