import Guardrail.Policy.Evaluation
import Guardrail.Text.Names

/-!
# Approval requests

A change that needs approval collects the votes of authorised people. One vote against it rejects
it; as many votes for it as are required approve it. After that, and from strangers or from people
who have voted before, no vote counts.
-/

namespace Guardrail

/-- How many approvals a change in an environment needs. -/
structure ApprovalRequirements where
  /-- The number for environments that are not listed. -/
  fallback : Nat
  overrides : List (String × Nat)
  deriving DecidableEq, Repr, Inhabited

namespace ApprovalRequirements

/-- The number for environments that are not listed, unless it is given. -/
def usual : Nat := 1

/-- Two approvals in production, one elsewhere. -/
def standard : ApprovalRequirements :=
  { fallback := usual, overrides := [("production", 2), ("staging", 1)] }

/-- The approvals that a change in an environment needs; never none. -/
def requiredFor (r : ApprovalRequirements) (environment : String) : Nat :=
  max ((r.overrides.lookup environment).getD r.fallback) 1

/-- A table from texts to numbers. -/
def countTable? : Document → Option (List (String × Nat))
  | .map entries => do
    let pairs ← entries.mapM fun (k, d) => do return (← k.text?, ← d.nat?)
    let members := pairs.foldl (fun ms (k, n) => Json.putMember k (.ofNat n) ms) []
    members.mapM fun (k, v) => (v.toDocument.nat?).map (k, ·)
  | _ => none

/-- The requirements that a document describes. -/
def ofDocument? (d : Document) : Option ApprovalRequirements := do
  let f ← d.fields? ["default_required", "overrides"]
  return {
    fallback := ← f.orElse? "default_required" usual Document.nat?
    overrides := ← f.orElse? "overrides" [] countTable? }

/-- The requirements as a value. -/
def toJson (r : ApprovalRequirements) : Json :=
  Json.ofMembers
    [("default_required", .ofNat r.fallback),
      ("overrides", Json.ofMembers (r.overrides.map fun (k, n) => (k, .ofNat n)))]

end ApprovalRequirements

/-- A vote on a change. -/
inductive Decision where
  | approve
  | reject
  deriving DecidableEq, Repr, Inhabited

namespace Decision

/-- The name of a vote. -/
def name : Decision → String
  | .approve => "approve"
  | .reject => "reject"

/-- The vote with a name. -/
def ofName? (name : String) : Option Decision :=
  [approve, reject].find? (·.name = name)

/-- The vote that a document names. -/
def ofDocument? : Document → Option Decision :=
  Document.choice? ofName?

end Decision

/-- Whether a request is open, and what came of it otherwise. -/
inductive ApprovalStatus where
  | pending
  | approved
  | rejected
  deriving DecidableEq, Repr, Inhabited

/-- The name of a status. -/
def ApprovalStatus.name : ApprovalStatus → String
  | .pending => "pending"
  | .approved => "approved"
  | .rejected => "rejected"

/-- Why a vote does not count. -/
inductive ApprovalError where
  | unauthorized (approver : String)
  | duplicateApprover (approver : String)
  | alreadyResolved (status : ApprovalStatus)
  deriving DecidableEq, Repr, Inhabited

/-- The text of a refusal. -/
def ApprovalError.message : ApprovalError → String
  | .unauthorized approver => "approver '" ++ approver ++ "' is not authorized for this change"
  | .duplicateApprover approver =>
    "approver '" ++ approver ++ "' has already submitted a decision"
  | .alreadyResolved status => "approval request is already " ++ status.name

/-- A vote that counts. -/
structure Vote where
  approver : String
  decision : Decision
  comment? : Option String
  deriving DecidableEq, Repr, Inhabited

/-- The state of an approval. The authorised people stand in ascending order, each once. -/
structure ApprovalRequest where
  changeId : String
  environment : String
  required : Nat
  authorized : List String
  votes : List Vote
  status : ApprovalStatus
  reasons : List String
  deriving DecidableEq, Repr, Inhabited

namespace ApprovalRequest

/-- A request without votes; it requires at least one approval. -/
def new (changeId environment : String) (required : Nat) (approvers : List String) :
    ApprovalRequest :=
  { changeId, environment
    required := max required 1
    authorized := Text.nameSet approvers
    votes := []
    status := .pending
    reasons := [] }

/-- The text behind the mark of a warning that asks for approval. -/
def reason? (warning : String) : Option String :=
  (Text.after? PolicyResult.approvalMark.toList warning.toList).map String.ofList

/-- The request for a change whose evaluation asks for approval, with the warnings that ask for it
as reasons. -/
def ofEvaluation? (result : PolicyResult) (changeId environment : String)
    (requirements : ApprovalRequirements) (approvers : List String) : Option ApprovalRequest :=
  if result.approvalRequired then
    let request := new changeId environment (requirements.requiredFor environment) approvers
    some { request with reasons := result.warnings.filterMap reason? }
  else none

/-- The number of votes for the change. -/
def approvalCount (r : ApprovalRequest) : Nat :=
  r.votes.countP (·.decision = .approve)

/-- The status that a vote leads to when it has been added. -/
def statusAfter (r : ApprovalRequest) : Decision → ApprovalStatus
  | .reject => .rejected
  | .approve => if r.required ≤ r.approvalCount then .approved else .pending

/-- A vote: why it does not count, or the request with the vote. -/
def submit (r : ApprovalRequest) (approver : String) (decision : Decision)
    (comment? : Option String) : Except ApprovalError ApprovalRequest :=
  if r.status ≠ .pending then .error (.alreadyResolved r.status)
  else if approver ∉ r.authorized then .error (.unauthorized approver)
  else if r.votes.any (·.approver = approver) then .error (.duplicateApprover approver)
  else
    let r := { r with votes := r.votes ++ [Vote.mk approver decision comment?] }
    .ok { r with status := r.statusAfter decision }

/-- The request as a value, with the number of votes for the change. -/
def toJson (r : ApprovalRequest) : Json :=
  Json.ofMembers
    [("changeId", .text r.changeId), ("environment", .text r.environment),
      ("requiredApprovals", .ofNat r.required),
      ("authorizedApprovers", .array (r.authorized.map Json.text)),
      ("records", .array (r.votes.map fun v =>
        Json.ofMembers ([("approver", .text v.approver), ("decision", .text v.decision.name)] ++
          Condition.optionalMember "comment" v.comment?))),
      ("status", .text r.status.name),
      ("reasons", .array (r.reasons.map Json.text)),
      ("approvalCount", .ofNat r.approvalCount)]

end ApprovalRequest

end Guardrail
