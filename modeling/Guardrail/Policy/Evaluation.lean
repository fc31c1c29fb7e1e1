import Guardrail.Condition.Evaluation
import Guardrail.Message.Template
import Guardrail.Policy.Rule
import Guardrail.Time.Timestamp

/-!
# Evaluating a policy

Every rule of a policy is tried on a record. A rule whose condition holds gives its message to the
list that its action names; the policy denies if a deny rule did so. A policy that is switched off
passes.
-/

namespace Guardrail

/-- What became of one rule; `passed` means that its condition did not hold. -/
structure RuleResult where
  ruleId : String
  passed : Bool
  action : Action
  message? : Option String
  deriving DecidableEq, Repr, Inhabited

namespace RuleResult

/-- The result as a value. -/
def toJson (r : RuleResult) : Json :=
  Json.ofMembers <|
    [("ruleId", .text r.ruleId), ("passed", .bool r.passed), ("action", r.action.toJson)] ++
    Condition.optionalMember "message" r.message?

/-- The result that a document describes. -/
def ofDocument? (d : Document) : Option RuleResult := do
  let f ← d.fields? ["ruleId", "passed", "action", "message"]
  return {
    ruleId := ← f.required? "ruleId" Document.text?
    passed := ← f.required? "passed" Document.bool?
    action := ← f.required? "action" Action.ofDocument?
    message? := ← f.optional? "message" Document.text? }

end RuleResult

/-- The outcome of one policy. -/
structure PolicyResult where
  policyId : String
  policyName : String
  allowed : Bool
  denied : Bool
  warnings : List String
  denials : List String
  approvalRequired : Bool
  notifications : List String
  rules : List RuleResult
  durationMs : Float
  deriving DecidableEq, Repr

namespace PolicyResult

/-- The outcome of a policy none of whose rules has been tried. -/
def pass (p : Policy) : PolicyResult :=
  { policyId := p.id, policyName := p.name, allowed := true, denied := false, warnings := [],
    denials := [], approvalRequired := false, notifications := [], rules := [], durationMs := 0 }

/-- What stands in front of a warning that asks for approval. -/
def approvalMark : String := "Approval required: "

/-- The outcome with the message of a rule whose condition holds. -/
def raise (r : PolicyResult) (action : Action) (message : String) : PolicyResult :=
  match action with
  | .deny => { r with denials := r.denials ++ [message] }
  | .warn => { r with warnings := r.warnings ++ [message] }
  | .requireApproval =>
    { r with approvalRequired := true, warnings := r.warnings ++ [approvalMark ++ message] }
  | .notify => { r with notifications := r.notifications ++ [message] }

/-- The outcome with the result of a rule. -/
def note (r : PolicyResult) (rule : RuleResult) : PolicyResult :=
  { r with rules := r.rules ++ [rule] }

/-- The outcome with one more rule tried on a record. -/
def tryRule (data : FlatRecord) (view : ResourceView) (r : PolicyResult) (rule : Rule) :
    PolicyResult :=
  if rule.condition.holds data (some view) then
    let message := Message.render rule.message data
    (r.raise rule.action message).note ⟨rule.id, false, rule.action, some message⟩
  else r.note ⟨rule.id, true, rule.action, none⟩

/-- The verdict: a policy denies if it has denials. -/
def settle (r : PolicyResult) : PolicyResult :=
  { r with denied := !r.denials.isEmpty, allowed := r.denials.isEmpty }

/-- The outcome as a value, without its duration. -/
def toJson (r : PolicyResult) : Json :=
  Json.ofMembers
    [("policyId", .text r.policyId), ("policyName", .text r.policyName),
      ("allowed", .bool r.allowed), ("denied", .bool r.denied),
      ("warnings", .array (r.warnings.map Json.text)),
      ("denials", .array (r.denials.map Json.text)),
      ("approvalRequired", .bool r.approvalRequired),
      ("notifications", .array (r.notifications.map Json.text)),
      ("evaluatedRules", .array (r.rules.map RuleResult.toJson))]

/-- A point in time that a document gives. -/
def time? (d : Document) : Option Time.Timestamp :=
  d.text?.bind Time.Timestamp.ofText?

/-- The outcome that a document describes. When the policy was evaluated is not kept, but a list has
to give it. -/
def ofDocument? (d : Document) : Option PolicyResult := do
  let f ← d.fields?
    ["policyId", "policyName", "allowed", "denied", "warnings", "denials", "approvalRequired",
      "notifications", "evaluatedRules", "evaluatedAt", "durationMs"]
  if f.positional ∧ (f.required? "evaluatedAt" time?).isNone then none else some ()
  return {
    policyId := ← f.required? "policyId" Document.text?
    policyName := ← f.required? "policyName" Document.text?
    allowed := ← f.required? "allowed" Document.bool?
    denied := ← f.required? "denied" Document.bool?
    warnings := ← f.required? "warnings" (Document.list? Document.text?)
    denials := ← f.required? "denials" (Document.list? Document.text?)
    approvalRequired := ← f.required? "approvalRequired" Document.bool?
    notifications := ← f.required? "notifications" (Document.list? Document.text?)
    rules := ← f.required? "evaluatedRules" (Document.list? RuleResult.ofDocument?)
    durationMs := ← f.required? "durationMs" Document.float? }

end PolicyResult

namespace Policy

/-- The outcome of a policy on a record that is flattened down to `levels` segments. -/
def evaluate (p : Policy) (levels : Nat) (record : Json) : PolicyResult :=
  if p.enabled then
    let data := FlatRecord.ofJson levels record
    let view := ResourceView.ofRecord record
    (p.rules.foldl (PolicyResult.tryRule data view) (PolicyResult.pass p)).settle
  else PolicyResult.pass p

end Policy

end Guardrail
