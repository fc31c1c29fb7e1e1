import Guardrail.Decimal.Fixed
import Guardrail.Policy.Rule

/-!
# Ready-made policies

Policies for common guardrails: a limit on monthly cost, tags that every resource must have,
approval for changes in production, and no exposure to the public.
-/

namespace Guardrail.Policy

/-- A placeholder for a path in a message template. -/
def placeholder (path : String) : String :=
  "\x7b\x7b" ++ path ++ "\x7d\x7d"

/-- Denies changes that raise the monthly cost by more than `limit`. -/
def costThreshold (limit : Float) : Policy :=
  let amount := Decimal.amountText limit
  .new "cost-threshold" "Monthly cost threshold"
    [{ id := "cost-delta-limit"
       description := "Block changes adding more than $" ++ amount ++ " per month"
       condition := .compares .above "cost.monthlyDelta" limit
       severity := .high
       action := .deny
       message := "Estimated monthly cost increase of $" ++ placeholder "cost.monthlyDelta" ++
        " exceeds the $" ++ amount ++ " limit" }]

/-- Warns about a missing tag. -/
def requiredTagRule (tag : String) : Rule :=
  { id := "tag-" ++ tag
    description := ""
    condition := .tagMissing tag
    severity := .low
    action := .warn
    message := "Resource " ++ placeholder "resource.name" ++ " is missing required tag '" ++ tag ++
      "'" }

/-- Warns once about each missing tag. -/
def requiredTags (tags : List String) : Policy :=
  .new "required-tags" "Required tags" (tags.map requiredTagRule)

/-- Asks for approval of changes in production and denies to delete protected resources. -/
def productionChange : Policy :=
  .new "production-changes" "Production change control"
    [{ id := "prod-approval"
       description := ""
       condition := .equals "environment" (.text "production")
       severity := .high
       action := .requireApproval
       message := placeholder "action" ++ " on " ++ placeholder "resource.name" ++
        " targets production" },
     { id := "protected-delete"
       description := ""
       condition := .all [.equals "action" (.text "delete"), .tagEquals "protected" (some "true")]
       severity := .critical
       action := .deny
       message := placeholder "resource.name" ++ " is protected and cannot be deleted" }]

/-- Denies ingress from everywhere and tells about public buckets. -/
def publicExposure : Policy :=
  .new "public-exposure" "Public exposure"
    [{ id := "open-ingress"
       description := ""
       condition := .contains "resource.ingressCidrs" (.text "0.0.0.0/0")
       severity := .critical
       action := .deny
       message := placeholder "resource.name" ++ " allows ingress from 0.0.0.0/0" },
     { id := "public-bucket"
       description := ""
       condition := .all [.resourceKind "storage", .equals "resource.public" (.bool true)]
       severity := .medium
       action := .notify
       message := "Bucket " ++ placeholder "resource.name" ++ " is publicly readable" }]

end Guardrail.Policy
