import Guardrail.Engine.Violation

/-!
# Batches

Many requests put to one engine. An evaluation may collapse; the others go on.
-/

namespace Guardrail.Engine

/-- The verdicts on several requests, in the order of the requests. -/
structure Batch where
  verdicts : List Verdict
  violations : Nat
  /-- The verdicts without an answer. -/
  failed : Nat
  durationMs : Float
  deriving DecidableEq, Repr

namespace Batch

/-- The verdict of an evaluation that collapsed. -/
def collapsed : Verdict := .failed "evaluation panicked" []

/-- The batch of several verdicts. The sum of durations starts from negative zero, the neutral
element of addition. -/
def ofVerdicts (vs : List Verdict) : Batch :=
  { verdicts := vs
    violations := vs.foldl (fun n v => n + v.violations.length) 0
    failed := vs.countP (!·.ok)
    durationMs := (vs.map (·.durationMs)).foldl (· + ·) (-0.0) }

/-- The batch of several requests to an engine; an evaluation without a verdict has collapsed. -/
def run {α : Type} (evaluate : α → Option Verdict) (requests : List α) : Batch :=
  ofVerdicts (requests.map fun r => (evaluate r).getD collapsed)

/-- The number of requests. -/
def size (b : Batch) : Nat := b.verdicts.length

/-- Whether a change is denied. -/
def anyDenied (b : Batch) : Bool := b.verdicts.any (·.isDenied)

end Batch

end Guardrail.Engine
