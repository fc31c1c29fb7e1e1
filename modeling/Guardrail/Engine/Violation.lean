import Guardrail.Policy.Outcome

/-!
# Violations and verdicts

What an engine says of a change: the rules that the change violates, and whether the engine came to
an answer at all.
-/

namespace Guardrail.Engine

/-- The kinds of engines. -/
inductive Kind where
  | embedded
  | mock
  | remote
  deriving DecidableEq, Repr, Inhabited

/-- The name of a kind of engine. -/
def Kind.name : Kind → String
  | .embedded => "local"
  | .mock => "mock"
  | .remote => "remote"

/-- A rule that a change violates. -/
structure Violation where
  ruleId : String
  message : String
  severity : Severity
  action : Action
  package : String
  deriving DecidableEq, Repr, Inhabited

namespace Violation

/-- The violation as a value. -/
def toJson (v : Violation) : Json :=
  Json.ofMembers
    [("ruleId", .text v.ruleId), ("message", .text v.message), ("severity", v.severity.toJson),
      ("action", v.action.toJson), ("package", .text v.package)]

/-- The violation that a document describes. -/
def ofDocument? (d : Document) : Option Violation := do
  let f ← d.fields? ["ruleId", "message", "severity", "action", "package"]
  return {
    ruleId := ← f.required? "ruleId" Document.text?
    message := ← f.required? "message" Document.text?
    severity := ← f.required? "severity" Severity.ofDocument?
    action := ← f.required? "action" Action.ofDocument?
    package := ← f.required? "package" Document.text? }

end Violation

/-- The verdict of an engine on a change. Without an answer, `ok` is false and `error?` says why. -/
structure Verdict where
  ok : Bool
  violations : List Violation
  durationMs : Float
  error? : Option String
  deriving DecidableEq, Repr

namespace Verdict

/-- A verdict without violations. -/
def allow : Verdict := { ok := true, violations := [], durationMs := 0, error? := none }

/-- A verdict with violations. -/
def ofViolations (vs : List Violation) : Verdict := { allow with violations := vs }

/-- The verdict of an engine that came to no answer. -/
def failed (error : String) (vs : List Violation) : Verdict :=
  { ok := false, violations := vs, durationMs := 0, error? := some error }

/-- Whether a violation refuses the change. -/
def isDenied (v : Verdict) : Bool :=
  v.violations.any (·.action.isBlocking)

/-- The members of a verdict as a value, without its duration. -/
def members (v : Verdict) : List (String × Json) :=
  [("ok", .bool v.ok), ("violations", .array (v.violations.map Violation.toJson))] ++
    (v.error?.map fun e => ("error", Json.text e)).toList

/-- The verdict that a document describes. -/
def ofDocument? (d : Document) : Option Verdict := do
  let f ← d.fields? ["ok", "violations", "durationMs", "error"]
  return {
    ok := ← f.required? "ok" Document.bool?
    violations := ← f.required? "violations" (Document.list? Violation.ofDocument?)
    durationMs := ← f.required? "durationMs" Document.float?
    error? := ← f.orElse? "error" none (Document.option? Document.text?) }

end Verdict

end Guardrail.Engine
