import Guardrail.Policy.Aggregate
import Guardrail.Source.Reading

/-!
# Loading policies

Policies from YAML texts and from files. A set of policies stays as it is when loading fails.
-/

namespace Guardrail

namespace Policy

/-- The policy that a YAML text describes. -/
def ofYaml (text : String) : Except Failure Policy :=
  Source.ofYaml shape ofDocument? text

/-- The policy that a file describes. -/
def ofFile (f : File) : Except Failure Policy :=
  Source.ofFile shape ofDocument? (fun why => .io why.message) f

end Policy

namespace PolicySet

/-- The set with the policy of a file added at the end. -/
def load (s : PolicySet) (f : File) : Except Failure PolicySet :=
  (Policy.ofFile f).map s.add

/-- How a set comes to a further policy. -/
inductive Step where
  | add (p : Policy)
  | load (f : File)

/-- The set with the policy of a step, or why there is none. -/
def attempt (s : PolicySet) : Step → Except Failure PolicySet
  | .add p => .ok (s.add p)
  | .load f => s.load f

/-- The set after a step. -/
def perform (s : PolicySet) (step : Step) : PolicySet :=
  match s.attempt step with
  | .ok next => next
  | .error _ => s

/-- The set after several steps. -/
def run (s : PolicySet) (steps : List Step) : PolicySet :=
  steps.foldl perform s

end PolicySet

end Guardrail
