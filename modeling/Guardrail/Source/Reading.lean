import Guardrail.Document.Basic
import Guardrail.Failure
import Guardrail.Json.Parser
import Guardrail.Source.File
import Guardrail.Yaml.Selection

/-!
# Reading values from texts

A text describes a value in JSON or in YAML, and its reader looks for that value's shape. A text
that is malformed and one that describes something else fail alike, with a failure that names the
notation.
-/

namespace Guardrail.Source

/-- The value that a JSON text describes. -/
def ofJson {α : Type} (shape : Shape) (describe? : Document → Option α) (text : String) :
    Except Failure α :=
  match (Json.read? shape text).bind describe? with
  | some x => .ok x
  | none => .error .serialization

/-- The value that a YAML text describes. -/
def ofYaml {α : Type} (shape : Shape) (describe? : Document → Option α) (text : String) :
    Except Failure α :=
  match (Yaml.read? shape text).bind describe? with
  | some x => .ok x
  | none => .error .yaml

/-- The value that a file describes; `blame` makes a failure of a trouble with the file. -/
def ofFile {α : Type} (shape : Shape) (describe? : Document → Option α)
    (blame : FileTrouble → Failure) (f : File) : Except Failure α :=
  match f.text with
  | .error why => .error (blame why)
  | .ok text => if f.isJson then ofJson shape describe? text else ofYaml shape describe? text

end Guardrail.Source
