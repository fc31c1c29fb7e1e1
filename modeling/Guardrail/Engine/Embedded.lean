import Guardrail.Condition.Evaluation
import Guardrail.Engine.Request
import Guardrail.Engine.Violation
import Guardrail.Message.Template
import Guardrail.Rego.LocalRule

/-!
# The embedded engine

An engine that tries its own rules on a change, in their order. Rules can be added and removed.
-/

namespace Guardrail.Engine

/-- An engine with rules of its own. -/
structure Embedded where
  rules : List Rego.LocalRule
  deriving Repr, Inhabited

namespace Embedded

/-- The engine without rules. -/
def empty : Embedded := ⟨[]⟩

/-- The engine with the rules of a policy text added at the end. -/
def load (e : Embedded) (text : String) : Embedded :=
  ⟨e.rules ++ Rego.rules text⟩

/-- The engine of a policy text. -/
def ofText (text : String) : Embedded := empty.load text

/-- The engine with a rule added at the end. -/
def add (e : Embedded) (rule : Rego.LocalRule) : Embedded :=
  ⟨e.rules ++ [rule]⟩

/-- The engine without the rules that have an id. -/
def remove (e : Embedded) (id : String) : Embedded :=
  ⟨e.rules.filter (·.id ≠ id)⟩

/-- Whether a rule has an id. -/
def hasRule (e : Embedded) (id : String) : Bool :=
  e.rules.any (·.id = id)

/-- The violation of a rule by a flattened change, if its condition holds. -/
def violation? (data : FlatRecord) (view : ResourceView) (rule : Rego.LocalRule) :
    Option Violation :=
  if rule.condition.holds data (some view) then
    some
      { ruleId := rule.id, message := Message.render rule.message data, severity := rule.severity,
        action := rule.action, package := rule.package }
  else none

/-- The verdict on a change. -/
def evaluate (e : Embedded) (change : Json) : Verdict :=
  let data := FlatRecord.ofJson FlatRecord.defaultLevels change
  .ofViolations (e.rules.filterMap (violation? data (ResourceView.ofRecord change)))

end Embedded

end Guardrail.Engine
