import Guardrail.Condition.Document
import Guardrail.Policy.Outcome

/-!
# Rules and policies

A rule is a condition with the action and the message for the case that it holds. A policy is a
list of rules that can be switched off as a whole.
-/

namespace Guardrail

/-- A rule of a policy. -/
structure Rule where
  id : String
  description : String
  condition : Condition
  severity : Severity
  action : Action
  message : String
  deriving Repr, Inhabited

namespace Rule

/-- A rule of medium severity without a description. -/
def new (id : String) (condition : Condition) (action : Action) (message : String) : Rule :=
  { id, description := "", condition, severity := .medium, action, message }

/-- What is looked for in the text of a rule. -/
def shape : Shape :=
  .record
    [("id", .text), ("description", .text), ("condition", .kinded), ("severity", .choice),
      ("action", .choice), ("message", .text)]

/-- The rule that a document describes. -/
def ofDocument? (d : Document) : Option Rule := do
  let f ← d.fields? ["id", "description", "condition", "severity", "action", "message"]
  return {
    id := ← f.required? "id" Document.text?
    description := ← f.orElse? "description" "" Document.text?
    condition := ← f.required? "condition" (Condition.ofDocument? false)
    severity := ← f.orElse? "severity" .medium Severity.ofDocument?
    action := ← f.required? "action" Action.ofDocument?
    message := ← f.required? "message" Document.text? }

/-- The rule as a value. -/
def toJson (r : Rule) : Json :=
  Json.ofMembers
    [("id", .text r.id), ("description", .text r.description), ("condition", r.condition.toJson),
      ("severity", r.severity.toJson), ("action", r.action.toJson), ("message", .text r.message)]

end Rule

/-- A named list of rules. -/
structure Policy where
  id : String
  name : String
  description : String
  enabled : Bool
  rules : List Rule
  deriving Repr, Inhabited

namespace Policy

/-- A policy that is switched on and has the given rules. -/
def new (id name : String) (rules : List Rule) : Policy :=
  { id, name, description := "", enabled := true, rules }

/-- What is looked for in the text of a policy. -/
def shape : Shape :=
  .record
    [("id", .text), ("name", .text), ("description", .text), ("enabled", .truth),
      ("rules", .list Rule.shape)]

/-- The policy that a document describes. -/
def ofDocument? (d : Document) : Option Policy := do
  let f ← d.fields? ["id", "name", "description", "enabled", "rules"]
  return {
    id := ← f.required? "id" Document.text?
    name := ← f.required? "name" Document.text?
    description := ← f.orElse? "description" "" Document.text?
    enabled := ← f.orElse? "enabled" true Document.bool?
    rules := ← f.required? "rules" (Document.list? Rule.ofDocument?) }

/-- The policy as a value. -/
def toJson (p : Policy) : Json :=
  Json.ofMembers
    [("id", .text p.id), ("name", .text p.name), ("description", .text p.description),
      ("enabled", .bool p.enabled), ("rules", .array (p.rules.map Rule.toJson))]

end Policy

end Guardrail
