import Guardrail.Engine.Config
import Guardrail.Source.Reading

/-!
# Loading configurations

Configurations from YAML texts and from files, and the engines that they describe.
-/

namespace Guardrail.Engine

/-- An engine of one of the three kinds. -/
inductive Backend where
  | embedded (e : Embedded)
  | mock (m : Mock)
  | remote (r : Remote)

namespace Config

/-- The configuration that a YAML text describes. -/
def ofYaml (text : String) : Except Failure Config :=
  Source.ofYaml shape ofDocument? text

/-- The configuration that a file describes. -/
def ofFile (f : File) : Except Failure Config :=
  Source.ofFile shape ofDocument?
    (fun why => .config ("Failed to read " ++ f.path ++ ": " ++ why.message)) f

/-- The engine that a configuration describes. `read` gives the texts of files. -/
def build (c : Config) (read : String → Except FileTrouble String) : Except Failure Backend :=
  match c with
  | .embedded c => (c.build read).map .embedded
  | .mock violations => .ok (.mock { Mock.new with default := .ofViolations violations })
  | .remote c => .ok (.remote (.new c))

end Config

end Guardrail.Engine
