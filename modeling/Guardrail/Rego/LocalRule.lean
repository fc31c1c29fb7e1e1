import Guardrail.Policy.Rule
import Guardrail.Rego.Scanner

/-!
# Rules from policy texts

A block whose head has a meaning and that has a condition becomes a rule. The rules of one package
and head are numbered from one in their ids.
-/

namespace Guardrail.Rego

/-- The heads that have a meaning, each with the severity and the action of its rules. -/
def headMappings : List (String × Severity × Action) :=
  [("deny", .critical, .deny), ("violation", .high, .deny), ("warn", .medium, .warn),
    ("require_approval", .high, .requireApproval), ("approval", .high, .requireApproval),
    ("notify", .low, .notify)]

/-- The severity and the action of a head. -/
def headMapping? (head : String) : Option (Severity × Action) :=
  headMappings.lookup head

/-- A rule that was written as policy text. -/
structure LocalRule where
  id : String
  package : String
  description : String
  condition : Condition
  severity : Severity
  action : Action
  message : String
  deriving Repr, Inhabited

namespace LocalRule

/-- The rule of a policy that does the same. -/
def toRule (r : LocalRule) : Rule :=
  { id := r.id, description := r.description, condition := r.condition, severity := r.severity,
    action := r.action, message := r.message }

/-- The rule that a document describes; `inner` says whether the document was settled before. -/
def ofDocument? (inner : Bool) (d : Document) : Option LocalRule := do
  let f ← d.fields?
    ["id", "package", "description", "condition", "severity", "action", "message"]
  return {
    id := ← f.required? "id" Document.text?
    package := ← f.required? "package" Document.text?
    description := ← f.orElse? "description" "" Document.text?
    condition := ← f.required? "condition" (Condition.ofDocument? inner)
    severity := ← f.required? "severity" Severity.ofDocument?
    action := ← f.required? "action" Action.ofDocument?
    message := ← f.required? "message" Document.text? }

/-- The rule as a value. -/
def toJson (r : LocalRule) : Json :=
  Json.ofMembers
    [("id", .text r.id), ("package", .text r.package), ("description", .text r.description),
      ("condition", r.condition.toJson), ("severity", r.severity.toJson),
      ("action", r.action.toJson), ("message", .text r.message)]

end LocalRule

namespace Block

/-- The id of the `n`-th rule of the block's package and head. -/
def ruleId (b : Block) (n : Nat) : String :=
  let name := b.head ++ "_" ++ Decimal.digitText n
  if b.package = "" then name else b.package ++ "." ++ name

/-- A single condition is taken as it is; several have to hold together. -/
def condition (b : Block) : Condition :=
  match b.conditions with
  | [c] => c
  | cs => .all cs

/-- The description of the block's rule. -/
def description (b : Block) : String :=
  let text := b.head ++ " rule from package " ++ b.package
  if b.unparsed.isEmpty then text
  else text ++ " (" ++ Decimal.digitText b.unparsed.length ++ " statement(s) not translated)"

/-- The severity and the action of the block's rule, if it becomes one. A block without conditions
would hold of every input, so it does not. -/
def outcome? (b : Block) : Option (Severity × Action) :=
  if b.conditions.isEmpty then none else headMapping? b.head

/-- The rule of a block, as the `n`-th of its package and head. -/
def toRule? (b : Block) (n : Nat) : Option LocalRule :=
  b.outcome?.map fun (severity, action) =>
    { id := b.ruleId n
      package := b.package
      description := b.description
      condition := b.condition
      severity
      action
      message := b.message?.getD (b.ruleId n ++ " matched " ++ b.head) }

end Block

/-- The rules of several blocks; `before` lists the packages and heads of the rules in front. -/
def lowerFrom (before : List (String × String)) : List Block → List LocalRule
  | [] => []
  | b :: bs =>
    match b.toRule? (before.count (b.package, b.head) + 1) with
    | some rule => rule :: lowerFrom ((b.package, b.head) :: before) bs
    | none => lowerFrom before bs

/-- The rules of several blocks, in their order. -/
def lower (bs : List Block) : List LocalRule :=
  lowerFrom [] bs

/-- The rules of a policy text. -/
def rules (text : String) : List LocalRule :=
  lower (blocks text)

end Guardrail.Rego
