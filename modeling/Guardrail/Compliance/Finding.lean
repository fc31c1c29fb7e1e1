import Guardrail.Compliance.Context
import Guardrail.Compliance.Framework
import Guardrail.Policy.Outcome

/-!
# Controls and findings

A control judges resources of certain types. Each judgement is a finding; a control that has
nothing to judge leaves a finding without a resource.
-/

namespace Guardrail.Compliance

/-- What a control says of a resource, and why. -/
structure Verdict where
  status : Status
  reason : String
  deriving DecidableEq, Repr, Inhabited

/-- The collapse of a control's check, with the text it left behind. -/
structure Crash where
  detail? : Option String
  deriving DecidableEq, Repr, Inhabited

/-- The text of a crash. -/
def Crash.message (c : Crash) : String :=
  c.detail?.getD "control panicked"

/-- One requirement of a framework. The type `*` stands for every type. -/
structure Control where
  id : String
  framework : Framework
  clause : String
  title : String
  description : String
  severity : Severity
  kinds : List String
  judge : Context → Except Crash Verdict

/-- Whether a control applies to a resource type, up to the case of letters. -/
def Control.appliesTo (c : Control) (kind : String) : Bool :=
  c.kinds.any fun k => k = "*" || Text.sameLetters k kind

/-- One row of the evaluation of a framework. -/
structure Finding where
  controlId : String
  framework : Framework
  clause : String
  title : String
  severity : Severity
  status : Status
  resourceId : String
  resourceName : String
  resourceKind : String
  reason : String
  deriving DecidableEq, Repr, Inhabited

namespace Finding

/-- The finding of a control about a resource. -/
def new (c : Control) (r : Resource) (v : Verdict) : Finding :=
  { controlId := c.id, framework := c.framework, clause := c.clause, title := c.title,
    severity := c.severity, status := v.status, resourceId := r.id, resourceName := r.name,
    resourceKind := r.kind, reason := v.reason }

/-- The finding about a resource that could not be judged. -/
def ofTrouble (c : Control) (r : Resource) (trouble : String) : Finding :=
  new c r { status := .fail, reason := "Control evaluation error: " ++ trouble }

/-- The finding of a control that applies to no resource. -/
def vacant (c : Control) : Finding :=
  { controlId := c.id, framework := c.framework, clause := c.clause, title := c.title,
    severity := c.severity, status := .notApplicable, resourceId := "", resourceName := "",
    resourceKind := ""
    reason := "No resources of type " ++ ", ".intercalate c.kinds ++ " in scope" }

/-- The order of findings: by control, then by resource. -/
def precedes (a b : Finding) : Bool :=
  a.controlId < b.controlId || a.controlId = b.controlId && a.resourceId ≤ b.resourceId

/-- The finding that a document describes. -/
def ofDocument? (d : Document) : Option Finding := do
  let f ← d.fields?
    ["controlId", "framework", "section", "title", "severity", "status", "resourceId",
      "resourceName", "resourceType", "reason"]
  return {
    controlId := ← f.required? "controlId" Document.text?
    framework := ← f.required? "framework" Framework.ofDocument?
    clause := ← f.required? "section" Document.text?
    title := ← f.required? "title" Document.text?
    severity := ← f.required? "severity" Severity.ofDocument?
    status := ← f.required? "status" Status.ofDocument?
    resourceId := ← f.required? "resourceId" Document.text?
    resourceName := ← f.required? "resourceName" Document.text?
    resourceKind := ← f.required? "resourceType" Document.text?
    reason := ← f.required? "reason" Document.text? }

/-- The finding as a value. -/
def toJson (f : Finding) : Json :=
  Json.ofMembers
    [("controlId", .text f.controlId), ("framework", f.framework.toJson),
      ("section", .text f.clause), ("title", .text f.title), ("severity", f.severity.toJson),
      ("status", f.status.toJson), ("resourceId", .text f.resourceId),
      ("resourceName", .text f.resourceName), ("resourceType", .text f.resourceKind),
      ("reason", .text f.reason)]

end Finding

end Guardrail.Compliance
