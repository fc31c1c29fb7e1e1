/-!
# Scanning a text

A scanner reads a text step by step. Each step takes at least one character, so there are at most
as many steps as characters; a scan that needs more ends without a result.
-/

namespace Guardrail.Text

/-- The state of a scanner at the end of a text, if it is reached in so many steps. -/
def scanWithin {State : Type} (step : State → List Char → Option (State × List Char)) :
    Nat → State → List Char → Option State
  | _, s, [] => some s
  | 0, _, _ :: _ => none
  | steps + 1, s, cs =>
    match step s cs with
    | none => none
    | some (s', rest) => scanWithin step steps s' rest

/-- The state of a scanner at the end of a text. -/
def scan {State : Type} (step : State → List Char → Option (State × List Char)) (s : State)
    (cs : List Char) : Option State :=
  scanWithin step cs.length s cs

end Guardrail.Text
