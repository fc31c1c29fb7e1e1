import Guardrail.Engine.Embedded

/-!
# Managing an embedded engine

What an embedded engine is asked to do over time: take up the rules of a policy text or a single
rule, drop the rules of an id, judge a change. It replies to every step.
-/

namespace Guardrail.Engine.Embedded

/-- A step in the life of an embedded engine. -/
inductive Step where
  | load (text : String)
  | add (rule : Rego.LocalRule)
  | remove (id : String)
  | judge (change : Json)

/-- What an engine replies to a step. -/
inductive Reply where
  /-- So many rules have been taken up. -/
  | loaded (count : Nat)
  | added
  /-- Whether there was a rule to drop. -/
  | removed (found : Bool)
  | judged (verdict : Verdict)

/-- The reply to a step, and the engine after it. -/
def perform (e : Embedded) : Step → Reply × Embedded
  | .load text => (.loaded (Rego.rules text).length, e.load text)
  | .add rule => (.added, e.add rule)
  | .remove id =>
    let rest := e.remove id
    (.removed (e.rules.length ≠ rest.rules.length), rest)
  | .judge change => (.judged (e.evaluate change), e)

/-- The engine after several steps. -/
def run (e : Embedded) (steps : List Step) : Embedded :=
  steps.foldl (fun e step => (e.perform step).2) e

end Guardrail.Engine.Embedded
