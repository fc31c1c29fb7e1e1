import Guardrail.Compliance.Summary

/-!
# Reports

The summaries of several frameworks, and the resources that fail a grave control in any of them,
the worst first.
-/

namespace Guardrail.Compliance

/-- The failures of one resource over all frameworks. -/
structure CriticalResource where
  id : String
  name : String
  kind : String
  failures : Nat
  critical : Nat
  high : Nat
  /-- The ids of the failed controls, in the order of the findings. -/
  controls : List String
  frameworks : List Framework
  deriving DecidableEq, Repr, Inhabited

namespace CriticalResource

/-- The resource of a finding, without failures. -/
def ofFinding (f : Finding) : CriticalResource :=
  { id := f.resourceId, name := f.resourceName, kind := f.resourceKind, failures := 0,
    critical := 0, high := 0, controls := [], frameworks := [] }

/-- The resource with one more failure. -/
def record (r : CriticalResource) (f : Finding) : CriticalResource :=
  { r with
    failures := r.failures + 1
    critical := r.critical + if f.severity = .critical then 1 else 0
    high := r.high + if f.severity = .high then 1 else 0
    controls := r.controls ++ [f.controlId]
    frameworks := Framework.all.filter fun w => w ∈ r.frameworks || w = f.framework }

/-- Whether a resource has failed a grave control. -/
def isCritical (r : CriticalResource) : Bool :=
  0 < r.critical + r.high

/-- The order of resources: more failures first, then more critical ones, then by id. -/
def precedes (a b : CriticalResource) : Bool :=
  b.failures < a.failures ||
    a.failures = b.failures &&
      (b.critical < a.critical || a.critical = b.critical && a.id ≤ b.id)

/-- The resource as a value. -/
def toJson (r : CriticalResource) : Json :=
  Json.ofMembers
    [("resourceId", .text r.id), ("resourceName", .text r.name), ("resourceType", .text r.kind),
      ("failureCount", .ofNat r.failures), ("criticalFailures", .ofNat r.critical),
      ("highFailures", .ofNat r.high), ("failedControls", .array (r.controls.map Json.text)),
      ("frameworks", .array (r.frameworks.map Framework.toJson))]

end CriticalResource

/-- The failures by resource, with one more; a resource's name and type are those of its first
failure. -/
def recordFailure (f : Finding) : List CriticalResource → List CriticalResource
  | [] => [(CriticalResource.ofFinding f).record f]
  | r :: rs => if r.id = f.resourceId then r.record f :: rs else r :: recordFailure f rs

/-- The failures by resource. Findings without a resource do not count. -/
def failuresByResource (summaries : List Summary) : List CriticalResource :=
  ((summaries.flatMap Summary.failures).filter (·.resourceId ≠ "")).foldl
    (fun rs f => recordFailure f rs) []

/-- The resources that have failed a grave control, the worst first. -/
def criticalResources (summaries : List Summary) : List CriticalResource :=
  ((failuresByResource summaries).filter (·.isCritical)).mergeSort CriticalResource.precedes

/-- The outcome of several frameworks. -/
structure Report where
  summaries : List Summary
  resources : Nat
  critical : List CriticalResource
  deriving DecidableEq, Repr

namespace Report

/-- The report on several summaries over a number of resources. -/
def new (summaries : List Summary) (resources : Nat) : Report :=
  { summaries, resources, critical := criticalResources summaries }

/-- The first summary of a framework. -/
def summary? (r : Report) (framework : Framework) : Option Summary :=
  r.summaries.find? (·.framework = framework)

end Report

end Guardrail.Compliance
