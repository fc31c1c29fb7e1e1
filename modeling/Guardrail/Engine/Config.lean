import Guardrail.Document.Tagging
import Guardrail.Engine.Embedded
import Guardrail.Engine.Mock
import Guardrail.Engine.Remote
import Guardrail.Source.File

/-!
# Configurations

Which engine to use, and how to set it up. Building an embedded engine reads its policy files.
-/

namespace Guardrail.Engine

/-- The setup of an embedded engine. -/
structure EmbeddedConfig where
  rules : List Rego.LocalRule
  policyText? : Option String
  policyFiles : List String
  deriving Repr, Inhabited

namespace EmbeddedConfig

/-- The setup that a document describes. -/
def ofDocument? (d : Document) : Option EmbeddedConfig := do
  let f ← d.fields? ["rules", "policy_text", "policy_files"]
  return {
    rules := ← f.orElse? "rules" [] (Document.list? (Rego.LocalRule.ofDocument? true))
    policyText? := ← f.orElse? "policy_text" none (Document.option? Document.text?)
    policyFiles := ← f.orElse? "policy_files" [] (Document.list? Document.text?) }

/-- The members of the setup as a value. -/
def members (c : EmbeddedConfig) : List (String × Json) :=
  [("rules", .array (c.rules.map Rego.LocalRule.toJson)),
    ("policy_files", .array (c.policyFiles.map Json.text))] ++
    (c.policyText?.map fun t => ("policy_text", Json.text t)).toList

/-- The complaint about a policy file that cannot be read. -/
def unreadable (path : String) (why : FileTrouble) : Failure :=
  .config ("Failed to read policy file " ++ path ++ ": " ++ why.message)

/-- The embedded engine: the rules of the setup, then those of its policy text, then those of the
policy files in their order. `read` gives the texts of files. -/
def build (c : EmbeddedConfig) (read : String → Except FileTrouble String) :
    Except Failure Embedded := do
  let start : Embedded := ⟨c.rules⟩
  let start := c.policyText?.elim start start.load
  c.policyFiles.foldlM (fun e path =>
    match read path with
    | .ok text => .ok (e.load text)
    | .error why => .error (unreadable path why)) start

end EmbeddedConfig

/-- The setup of an engine. -/
inductive Config where
  | embedded (c : EmbeddedConfig)
  /-- A mock engine that always reports the same violations. -/
  | mock (violations : List Violation)
  | remote (c : RemoteConfig)
  deriving Repr, Inhabited

namespace Config

/-- The kind of engine that a setup describes. -/
def kind : Config → Kind
  | .embedded _ => .embedded
  | .mock _ => .mock
  | .remote _ => .remote

/-- The kind of engine that a document names. -/
def kind? (d : Document) : Option Kind :=
  d.text?.bind fun name => [Kind.embedded, .mock, .remote].find? (·.name = name)

/-- What is looked for in the text of a setup. -/
def shape : Shape := .kinded

/-- The setup that a document describes. -/
def ofDocument? (d : Document) : Option Config := do
  let (kind, body) ← d.splitKind? kind?
  match kind with
  | .embedded => (EmbeddedConfig.ofDocument? body).map .embedded
  | .mock =>
    let f ← body.fields? ["default_violations"]
    (f.orElse? "default_violations" [] (Document.list? Violation.ofDocument?)).map .mock
  | .remote => (RemoteConfig.ofDocument? body).map .remote

/-- The setup as a value. -/
def toJson (c : Config) : Json :=
  Json.ofMembers <| ("type", .text c.kind.name) ::
    match c with
    | .embedded c => c.members
    | .mock vs => [("default_violations", .array (vs.map Violation.toJson))]
    | .remote c => c.members

end Config

end Guardrail.Engine
