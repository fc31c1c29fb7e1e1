import Guardrail.Engine.Request
import Guardrail.Engine.Violation

/-!
# The mock engine

An engine whose verdicts are set in advance: the first response whose test the request passes, else
the default. It keeps the requests that it has judged, until it is told to forget them.
-/

namespace Guardrail.Engine

/-- An engine with verdicts set in advance. -/
structure Mock where
  responses : List ((Request → Bool) × Verdict)
  default : Verdict
  /-- The requests judged so far, the oldest first. -/
  log : List Request

namespace Mock

/-- The engine that allows everything. -/
def new : Mock := { responses := [], default := .allow, log := [] }

/-- The engine with another default. -/
def withDefault (m : Mock) (verdict : Verdict) : Mock := { m with default := verdict }

/-- The engine with a further response. -/
def respond (m : Mock) (test : Request → Bool) (verdict : Verdict) : Mock :=
  { m with responses := m.responses ++ [(test, verdict)] }

/-- Whether the change's action is the given one. -/
def hasAction (action : String) (r : Request) : Bool :=
  (r.change.member? "action").bind Json.text? == some action

/-- A member of the change, or of one of its parts if the change itself lacks it. -/
def detail? (change : Json) (name part member : String) : Option Json :=
  match change.member? name with
  | some x => some x
  | none => (change.member? part).bind (·.member? member)

/-- Whether the change is about a resource of the given type. -/
def hasResourceType (kind : String) (r : Request) : Bool :=
  (detail? r.change "resourceType" "resource" "type").bind Json.text? == some kind

/-- The number that a value is. -/
def number? : Json → Option Float
  | .number n => some n.toFloat
  | _ => none

/-- Whether the risk of the change lies above a threshold. -/
def hasRiskAbove (threshold : Float) (r : Request) : Bool :=
  ((detail? r.change "riskScore" "risk" "score").bind number?).any fun score => score > threshold

/-- The verdict on a request. -/
def answer (m : Mock) (r : Request) : Verdict :=
  ((m.responses.find? fun (test, _) => test r).map (·.2)).getD m.default

/-- The verdict on a request, and the engine that remembers the request. -/
def evaluate (m : Mock) (r : Request) : Verdict × Mock :=
  (m.answer r, { m with log := m.log ++ [r] })

/-- The engine without its memory. -/
def clear (m : Mock) : Mock := { m with log := [] }

/-- The number of requests judged so far. -/
def calls (m : Mock) : Nat := m.log.length

/-- A mock engine is always well. -/
def isHealthy (_ : Mock) : Bool := true

/-! ## Steps -/

/-- A step in the life of a mock engine. -/
inductive Step where
  | judge (r : Request)
  | clear
  | checkHealth

/-- What an engine replies to a step. -/
inductive Reply where
  | judged (verdict : Verdict)
  | cleared
  | healthy (well : Bool)

/-- The reply to a step, and the engine after it. -/
def perform (m : Mock) : Step → Reply × Mock
  | .judge r =>
    let (verdict, next) := m.evaluate r
    (.judged verdict, next)
  | .clear => (.cleared, m.clear)
  | .checkHealth => (.healthy m.isHealthy, m)

/-- The replies to several steps, and the engine after them. -/
def run (m : Mock) : List Step → List Reply × Mock
  | [] => ([], m)
  | step :: steps =>
    let (reply, next) := m.perform step
    let (replies, last) := next.run steps
    (reply :: replies, last)

end Mock

end Guardrail.Engine
