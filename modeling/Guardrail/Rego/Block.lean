import Guardrail.Rego.Statement
import Guardrail.Condition.Document

/-!
# Rule blocks

What has been read of the body of a rule: its conditions, its message, and the statements that
were not understood. Each statement adds to one of the three.
-/

namespace Guardrail.Rego

/-- A rule as far as it has been read. -/
structure Block where
  package : String
  head : String
  conditions : List Condition
  message? : Option String
  unparsed : List String
  deriving Repr, Inhabited

namespace Block

/-- The block that a document describes. -/
def ofDocument? (d : Document) : Option Block := do
  let f ← d.fields? ["package", "ruleHead", "conditions", "message", "unparsedLines"]
  return {
    package := ← f.required? "package" Document.text?
    head := ← f.required? "ruleHead" Document.text?
    conditions := ← f.required? "conditions" (Document.list? (Condition.ofDocument? false))
    message? := ← f.optional? "message" Document.text?
    unparsed := ← f.required? "unparsedLines" (Document.list? Document.text?) }

/-- The block as a value. -/
def toJson (b : Block) : Json :=
  Json.ofMembers <|
    [("package", .text b.package), ("ruleHead", .text b.head),
      ("conditions", .array (b.conditions.map Condition.toJson)),
      ("unparsedLines", .array (b.unparsed.map Json.text))] ++
    Condition.optionalMember "message" b.message?

end Block

/-- The body of an open rule. Conditions and statements stand in the order of the text. -/
structure Draft where
  head : String
  binding? : Option (List Char)
  conditions : List Condition
  message? : Option String
  unparsed : List String
  deriving Repr, Inhabited

namespace Draft

/-- A body without statements. -/
def new (head : String) (binding? : Option (List Char)) : Draft :=
  { head, binding?, conditions := [], message? := none, unparsed := [] }

/-- The variable that holds the message. -/
def messageVariable (d : Draft) : List Char :=
  d.binding?.getD ['m', 's', 'g']

/-- The body with a further statement. A later message replaces an earlier one. -/
def absorb (d : Draft) (statement : List Char) : Draft :=
  match Rego.message? d.messageVariable statement with
  | some m => { d with message? := some m }
  | none =>
    match condition? statement with
    | some c => { d with conditions := d.conditions ++ [c] }
    | none => { d with unparsed := d.unparsed ++ [String.ofList statement] }

/-- The finished block in a package. -/
def toBlock (d : Draft) (package : String) : Block :=
  { package
    head := d.head
    conditions := d.conditions
    message? := d.message?
    unparsed := d.unparsed }

end Draft

end Guardrail.Rego
