import Guardrail.Proofs.Compliance.Slots
import Guardrail.Proofs.Lists

/-!
# Failing lookups

A lookup in the graph that fails spoils the findings whose contexts need it, and no others. An
evaluation as a whole fails only if the query for the resources does.
-/

namespace Guardrail.Compliance

/-- Why there is no answer. -/
def failure? {α : Type} : Except Failure α → Option Failure
  | .error e => some e
  | .ok _ => none

variable {graph failing : GraphSource}

namespace Slot

end Slot

end Guardrail.Compliance
