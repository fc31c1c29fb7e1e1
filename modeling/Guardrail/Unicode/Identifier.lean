import Guardrail.Unicode.Invisible
import Guardrail.Unicode.Punctuation

/-!
# Identifiers

Which characters identifiers are made of.
-/

namespace Guardrail.Unicode

/-- Characters that may begin an identifier although they are no letters. -/
def otherIdStart : List (Nat × Nat) :=
  rangesOfText
  ["1885-1886 2118 212E 309B-309C"]

/-- Further characters that may stand in an identifier. -/
def otherIdContinue : List (Nat × Nat) :=
  rangesOfText
  ["B7 387 1369-1371 19DA 200C-200D 30FB FF65"]

/-- Characters that begin an identifier, but not when it is normalized. -/
def unstableStart : List (Nat × Nat) :=
  rangesOfText
  ["37A E33 EB3 309B-309C FC5E-FC63 FDFA-FDFB FE70-FE7E/2 FF9E-FF9F"]

/-- Characters that stand in an identifier, but not when it is normalized. -/
def unstableContinue : List (Nat × Nat) :=
  rangesOfText
  ["37A 309B-309C FC5E-FC63 FDFA-FDFB FE70-FE7E/2"]

/-- The property `ID_Compat_Math_Start`. -/
def idCompatMathStart : List (Nat × Nat) :=
  rangesOfText
  ["2202 2207 221E 1D6C1 1D6DB 1D6FB 1D715 1D735 1D74F 1D76F 1D789 1D7A9 1D7C3"]

/-- The property `ID_Compat_Math_Continue`. -/
def idCompatMathContinue : List (Nat × Nat) :=
  rangesOfText
  ["B2-B3 B9 2070 2074-207E 2080-208E 2202 2207 221E 1D6C1 1D6DB 1D6FB 1D715 1D735 1D74F 1D76F",
   "1D789 1D7A9 1D7C3"]

/-- The characters that have a meaning of their own in patterns. -/
def patternCharacters : List (Nat × Nat) :=
  union patternSyntax patternWhiteSpace

/-- The property `ID_Start`. -/
def idStart : List (Nat × Nat) :=
  difference (union (categoriesRanges ["L", "Nl"]) otherIdStart) patternCharacters

/-- The property `ID_Continue`. -/
def idContinue : List (Nat × Nat) :=
  difference
    (normalize (idStart ++ categoriesRanges ["Mn", "Mc", "Nd", "Pc"] ++ otherIdContinue))
    patternCharacters

/-- The property `XID_Start`. -/
def xidStart : List (Nat × Nat) :=
  difference idStart unstableStart

/-- The property `XID_Continue`. -/
def xidContinue : List (Nat × Nat) :=
  difference idContinue unstableContinue

end Guardrail.Unicode
