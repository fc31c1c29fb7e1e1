import Guardrail.Engine.Violation
import Guardrail.Json.Printer
import Guardrail.Rego.LocalRule
import Guardrail.Text.Search

/-!
# Decision documents

What a remote policy service answers. Its `result` is a list of reported items, an object with such
a list under `violations`, or an object with such lists under the heads of rules; every item becomes
a violation.
-/

namespace Guardrail.Engine

/-- The package and the head that a decision is asked of. -/
structure Topic where
  package : String
  head : String
  deriving DecidableEq, Repr, Inhabited

namespace Topic

/-- The part of a path in front of the package. -/
def root : List Char := "v1/data/".toList

/-- A text without the slashes at its ends. -/
def trimSlashes (cs : List Char) : List Char :=
  Text.dropEndWhile (· = '/') (cs.dropWhile (· = '/'))

/-- The topic of a policy path: the last segment is the head, and those in front of it are the
package. -/
def ofPath (path : String) : Topic :=
  let path := trimSlashes path.toList
  let path := (Text.after? root path).getD path
  let segments := (Text.splitWhere (· = '/') path).filter (!·.isEmpty)
  let names := segments.map String.ofList
  { package := ".".intercalate names.dropLast, head := names.getLast?.getD "" }

/-- The id of the `n`-th item of a topic. -/
def itemId (t : Topic) (n : Nat) : String :=
  t.package ++ "." ++ t.head ++ "_" ++ Decimal.digitText n

/-- The severity and the action of the items that do not give their own. -/
def outcome (t : Topic) : Severity × Action :=
  (Rego.headMapping? t.head).getD (.high, .deny)

end Topic

/-- The first of several members that is a text. -/
def firstText? (item : Json) (names : List String) : Option String :=
  names.findSome? fun name => (item.member? name).bind Json.text?

/-- The violation that the `n`-th item of a topic reports. -/
def reported (t : Topic) (n : Nat) (item : Json) : Violation :=
  let plain (message : String) : Violation :=
    { ruleId := t.itemId n, message, severity := t.outcome.1, action := t.outcome.2,
      package := t.package }
  match item with
  | .object _ =>
    { ruleId := (firstText? item ["ruleId", "rule_id", "id"]).getD (t.itemId n)
      message := (firstText? item ["message", "msg"]).getD ""
      severity :=
        ((item.member? "severity").bind fun x => Severity.ofDocument? x.toDocument).getD
          t.outcome.1
      action :=
        ((item.member? "action").bind fun x => Action.ofDocument? x.toDocument).getD t.outcome.2
      package := (firstText? item ["package"]).getD t.package }
  | .text message => plain message
  | other => plain other.render

/-- The violations that the items of a topic report. -/
def reportedAll (t : Topic) (items : List Json) : List Violation :=
  items.mapIdx fun i item => reported t (i + 1) item

/-- The violations under the heads of rules. -/
def reportedByHead (package : String) (members : List (String × Json)) : List Violation :=
  members.flatMap fun (head, value) =>
    match Rego.headMapping? head, value with
    | some _, .array items => reportedAll { package, head } items
    | _, _ => []

/-- The violations of a decision document; one without a result has none. -/
def decided (t : Topic) (document : Json) : List Violation :=
  match document.member? "result" with
  | some (.array items) => reportedAll t items
  | some (.object members) =>
    match members.lookup "violations" with
    | some (.array items) => reportedAll t items
    | _ => reportedByHead t.package members
  | _ => []

end Guardrail.Engine
