import Guardrail.Document.Fields

/-!
# Severities and actions

How grave a rule is, from `info` to `critical`, and what happens when its condition holds.
-/

namespace Guardrail

/-- The gravity of a rule or control, ascending. -/
inductive Severity where
  | info
  | low
  | medium
  | high
  | critical
  deriving DecidableEq, Repr, Inhabited

namespace Severity

/-- The severities in ascending order. -/
def all : List Severity := [.info, .low, .medium, .high, .critical]

/-- The place of a severity in the order. -/
def rank : Severity → Nat
  | .info => 0
  | .low => 1
  | .medium => 2
  | .high => 3
  | .critical => 4

/-- The name of a severity. -/
def name : Severity → String
  | .info => "info"
  | .low => "low"
  | .medium => "medium"
  | .high => "high"
  | .critical => "critical"

/-- The severity with a name. -/
def ofName? (name : String) : Option Severity :=
  all.find? (·.name = name)

/-- Whether a resource with failures of this severity counts as critical. -/
def isSevere (s : Severity) : Bool :=
  rank .high ≤ s.rank

/-- The severity that a document names. -/
def ofDocument? : Document → Option Severity :=
  Document.choice? ofName?

/-- The severity as a value. -/
def toJson (s : Severity) : Json := .text s.name

@[simp] theorem ofName?_name (s : Severity) : ofName? s.name = some s := by
  cases s <;> decide

end Severity

/-- What happens to a change when a rule's condition holds. -/
inductive Action where
  /-- The change is refused. -/
  | deny
  /-- The change is allowed with a warning. -/
  | warn
  /-- The change is allowed once people approve. -/
  | requireApproval
  /-- The change is allowed and others are told. -/
  | notify
  deriving DecidableEq, Repr, Inhabited

namespace Action

/-- All actions. -/
def all : List Action := [.deny, .warn, .requireApproval, .notify]

/-- The name of an action. -/
def name : Action → String
  | .deny => "deny"
  | .warn => "warn"
  | .requireApproval => "require_approval"
  | .notify => "notify"

/-- The action with a name. -/
def ofName? (name : String) : Option Action :=
  all.find? (·.name = name)

/-- Whether the action refuses a change on its own. -/
def isBlocking (a : Action) : Bool :=
  a = .deny

/-- The action that a document names. -/
def ofDocument? : Document → Option Action :=
  Document.choice? ofName?

/-- The action as a value. -/
def toJson (a : Action) : Json := .text a.name

@[simp] theorem ofName?_name (a : Action) : ofName? a.name = some a := by
  cases a <;> decide

end Action

end Guardrail
