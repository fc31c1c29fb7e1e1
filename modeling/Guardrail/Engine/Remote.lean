import Guardrail.Engine.Decision
import Guardrail.Engine.Request
import Guardrail.Engine.Status
import Guardrail.Failure
import Guardrail.Json.Parser

/-!
# The remote engine

An engine that asks a policy service over HTTP. What comes of a call is an `Exchange`; if it brings
no decision, the fail mode says whether the change is refused.
-/

namespace Guardrail.Engine

/-- What becomes of a change when the service gives no decision. -/
inductive FailMode where
  /-- The change is allowed. -/
  | lenient
  /-- The change is refused. -/
  | strict
  deriving DecidableEq, Repr, Inhabited

namespace FailMode

/-- The name of a fail mode. -/
def name : FailMode → String
  | .lenient => "open"
  | .strict => "closed"

/-- The fail mode with a name. -/
def ofName? : String → Option FailMode
  | "open" => some .lenient
  | "closed" => some .strict
  | _ => none

/-- The fail mode that a document names. -/
def ofDocument? : Document → Option FailMode :=
  Document.choice? ofName?

end FailMode

/-- How to reach a policy service. -/
structure RemoteConfig where
  baseUrl : String
  policyPath : String
  timeoutMs : Nat
  failMode : FailMode
  healthPath : String
  deriving DecidableEq, Repr, Inhabited

namespace RemoteConfig

/-- The configuration for a base URL. -/
def new (baseUrl : String) : RemoteConfig :=
  { baseUrl, policyPath := "v1/data/stackguard/violations", timeoutMs := 5000,
    failMode := .strict, healthPath := "health" }

/-- The names of the fields in documents. -/
def fieldNames : List String :=
  ["base_url", "policy_path", "timeout_ms", "fail_mode", "health_path"]

/-- The configuration that a document describes. -/
def ofDocument? (d : Document) : Option RemoteConfig := do
  let f ← d.fields? fieldNames
  let standard := new (← f.required? "base_url" Document.text?)
  return { standard with
    policyPath := ← f.orElse? "policy_path" standard.policyPath Document.text?
    timeoutMs := ← f.orElse? "timeout_ms" standard.timeoutMs Document.nat?
    failMode := ← f.orElse? "fail_mode" standard.failMode FailMode.ofDocument?
    healthPath := ← f.orElse? "health_path" standard.healthPath Document.text? }

/-- The members of the configuration as a value. -/
def members (c : RemoteConfig) : List (String × Json) :=
  [("base_url", .text c.baseUrl), ("policy_path", .text c.policyPath),
    ("timeout_ms", .ofNat c.timeoutMs), ("fail_mode", .text c.failMode.name),
    ("health_path", .text c.healthPath)]

/-- A path below the base URL, joined by one slash. -/
def url (c : RemoteConfig) (path : String) : String :=
  String.ofList (Text.dropEndWhile (· = '/') c.baseUrl.toList ++
    '/' :: path.toList.dropWhile (· = '/'))

end RemoteConfig

/-- What comes of a call to the service. -/
inductive Exchange where
  /-- The service answered with a status code and a text. -/
  | answered (status : Nat) (body : String)
  /-- The service answered with a status code and bytes that are no text. -/
  | garbled (status : Nat)
  /-- The service did not answer in time. -/
  | timedOut
  /-- The service could not be reached. -/
  | unreachable
  /-- The call failed for another reason, in the words of the client. -/
  | failed (why : String)
  deriving DecidableEq, Repr, Inhabited

/-- An engine that asks a policy service. -/
structure Remote where
  config : RemoteConfig
  /-- Where decisions are asked for. -/
  endpoint : String
  /-- Where the service says whether it is well. -/
  healthEndpoint : String
  topic : Topic
  deriving DecidableEq, Repr, Inhabited

namespace Remote

/-- The engine with a configuration. -/
def new (config : RemoteConfig) : Remote :=
  { config
    endpoint := config.url config.policyPath
    healthEndpoint := config.url config.healthPath
    topic := Topic.ofPath config.policyPath }

/-- What is posted to ask for a decision. -/
def question (r : Request) : Json :=
  Json.ofMembers [("input", r.toJson)]

/-- The violations that an answer brings, given the value that its body was read as. -/
def answer (e : Remote) (status : Nat) (document? : Option Json) :
    Except Failure (List Violation) :=
  if isSuccess status then
    match document? with
    | some document => .ok (decided e.topic document)
    | none => .error (.transport "Invalid response body: error decoding response body")
  else .error (.transport (e.endpoint ++ " returned " ++ statusText status))

/-- The violations that a call to the service brings. -/
def violations (e : Remote) : Exchange → Except Failure (List Violation)
  | .timedOut => .error .timeout
  | .unreachable => .error (.transport ("error sending request for url (" ++ e.endpoint ++ ")"))
  | .failed why => .error (.transport why)
  | .answered status body =>
    e.answer status ((Json.read? .anything body).bind Document.toJson?)
  | .garbled status => e.answer status none

/-- The violation that stands for a missing decision. -/
def unavailable (failure : Failure) : Violation :=
  { ruleId := "remote-policy-unavailable"
    message := "Policy service unavailable: " ++ failure.message
    severity := .critical
    action := .deny
    package := "stackguard.remote" }

/-- The verdict without a decision. -/
def onFailure (e : Remote) (failure : Failure) : Verdict :=
  .failed failure.message <|
    match e.config.failMode with
    | .lenient => []
    | .strict => [unavailable failure]

/-- The verdict that a call to the service brings. -/
def evaluate (e : Remote) (x : Exchange) : Verdict :=
  match e.violations x with
  | .ok vs => .ofViolations vs
  | .error failure => e.onFailure failure

/-- The verdict on a request, posted to the service by a client that tells what came of it. -/
def ask (e : Remote) (post : String → Json → Exchange) (r : Request) : Verdict :=
  e.evaluate (post e.endpoint (question r))

/-- Whether a call that asks after the service's health finds it well. -/
def isHealthy : Exchange → Bool
  | .answered status _ => isSuccess status
  | .garbled status => isSuccess status
  | _ => false

end Remote

end Guardrail.Engine
