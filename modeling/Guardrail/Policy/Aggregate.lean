import Guardrail.Policy.Evaluation

/-!
# Several policies at once

The outcomes of several policies on one record, put together: messages in the order of the
policies, and a verdict that denies if one of them does.
-/

namespace Guardrail

/-- The outcome of several policies. -/
structure AggregateResult where
  allowed : Bool
  denied : Bool
  warnings : List String
  denials : List String
  approvalRequired : Bool
  notifications : List String
  passedPolicies : Nat
  failedPolicies : Nat
  results : List PolicyResult
  totalDurationMs : Float
  deriving DecidableEq, Repr

namespace AggregateResult

/-- The outcome of no policy. -/
def empty : AggregateResult :=
  { allowed := true, denied := false, warnings := [], denials := [], approvalRequired := false,
    notifications := [], passedPolicies := 0, failedPolicies := 0, results := [],
    totalDurationMs := 0 }

/-- The outcome with one more policy. -/
def add (a : AggregateResult) (r : PolicyResult) : AggregateResult :=
  { allowed := !(a.denied || r.denied)
    denied := a.denied || r.denied
    warnings := a.warnings ++ r.warnings
    denials := a.denials ++ r.denials
    approvalRequired := a.approvalRequired || r.approvalRequired
    notifications := a.notifications ++ r.notifications
    passedPolicies := if r.denied then a.passedPolicies else a.passedPolicies + 1
    failedPolicies := if r.denied then a.failedPolicies + 1 else a.failedPolicies
    results := a.results ++ [r]
    totalDurationMs := a.totalDurationMs + r.durationMs }

/-- The outcome of several policies, from the outcome of each. -/
def ofResults (rs : List PolicyResult) : AggregateResult :=
  rs.foldl add empty

/-- The members of the outcome other than the single outcomes. -/
def summaryMembers (a : AggregateResult) : List (String × Json) :=
  [("allowed", .bool a.allowed), ("denied", .bool a.denied),
    ("warnings", .array (a.warnings.map Json.text)),
    ("denials", .array (a.denials.map Json.text)),
    ("approvalRequired", .bool a.approvalRequired),
    ("notifications", .array (a.notifications.map Json.text)),
    ("passedPolicies", .ofNat a.passedPolicies), ("failedPolicies", .ofNat a.failedPolicies)]

/-- The outcome as a value, without durations. -/
def toJson (a : AggregateResult) : Json :=
  Json.ofMembers (("results", .array (a.results.map PolicyResult.toJson)) :: a.summaryMembers)

end AggregateResult

/-- A list of policies to be evaluated together, and the depth down to which records are
flattened. -/
structure PolicySet where
  policies : List Policy
  levels : Nat
  deriving Repr

namespace PolicySet

/-- The set without policies. -/
def empty (levels : Nat) : PolicySet := ⟨[], levels⟩

/-- The set with one more policy. -/
def add (s : PolicySet) (p : Policy) : PolicySet :=
  { s with policies := s.policies ++ [p] }

/-- The outcome of given policies on a record. -/
def evaluateAll (s : PolicySet) (policies : List Policy) (record : Json) : AggregateResult :=
  .ofResults (policies.map fun p => p.evaluate s.levels record)

/-- The outcome of the policies of the set on a record. -/
def evaluate (s : PolicySet) (record : Json) : AggregateResult :=
  s.evaluateAll s.policies record

end PolicySet

end Guardrail
