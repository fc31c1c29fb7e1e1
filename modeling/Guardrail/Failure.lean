/-!
# Failures

Why an operation on policies, engines or the resource graph did not succeed. `message` gives the
text that people see.
-/

namespace Guardrail

/-- The cause of a failure. -/
inductive Failure where
  | policy (detail : String)
  | config (detail : String)
  | graph (detail : String)
  | transport (detail : String)
  | io (detail : String)
  /-- A JSON text or value that does not describe what it should. -/
  | serialization
  /-- A YAML text that does not describe what it should. -/
  | yaml
  | timeout
  | internal (detail : String)
  deriving DecidableEq, Repr, Inhabited

namespace Failure

/-- The text of a failure; the two about malformed documents leave the detail open. -/
def message : Failure → String
  | .policy detail => "policy error: " ++ detail
  | .config detail => "configuration error: " ++ detail
  | .graph detail => "graph error: " ++ detail
  | .transport detail => "transport error: " ++ detail
  | .io detail => "io error: " ++ detail
  | .serialization => "serialization error"
  | .yaml => "yaml error"
  | .timeout => "operation timed out"
  | .internal detail => "internal error: " ++ detail

end Failure

end Guardrail
