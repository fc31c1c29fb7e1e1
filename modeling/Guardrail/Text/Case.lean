/-!
# ASCII letter case

Names of types, relationships and flags are compared without regard to the case of the letters
`A`–`Z`; letters outside ASCII are compared as they are.
-/

namespace Guardrail.Text

/-- The text with the letters `A`–`Z` written small. -/
def lower (s : String) : String :=
  String.ofList (s.toList.map Char.toLower)

/-- Equality up to the case of the letters `A`–`Z`. -/
def sameLetters (s t : String) : Bool :=
  lower s == lower t

@[simp] theorem sameLetters_iff {s t : String} : sameLetters s t ↔ lower s = lower t := by
  simp [sameLetters]

end Guardrail.Text
