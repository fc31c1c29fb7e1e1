import Guardrail.Unicode.Ranges

/-!
# Ideographs

Ideographs, their parts, and the operators that describe them.
-/

namespace Guardrail.Unicode

/-- The property `Ideographic`. -/
def ideographic : List (Nat × Nat) :=
  rangesOfText
  ["3006-3007 3021-3029 3038-303A 3400-4DBF 4E00-9FFF F900-FA6D FA70-FAD9 16FE4 17000-187F7",
   "18800-18CD5 18CFF-18D08 1B170-1B2FB 20000-2A6DF 2A700-2B739 2B740-2B81D 2B820-2CEA1",
   "2CEB0-2EBE0 2EBF0-2EE5D 2F800-2FA1D 30000-3134A 31350-323AF"]

/-- The property `Unified_Ideograph`. -/
def unifiedIdeograph : List (Nat × Nat) :=
  rangesOfText
  ["3400-4DBF 4E00-9FFF FA0E-FA0F FA11 FA13-FA14 FA1F FA21 FA23-FA24 FA27-FA29 20000-2A6DF",
   "2A700-2B739 2B740-2B81D 2B820-2CEA1 2CEB0-2EBE0 2EBF0-2EE5D 30000-3134A 31350-323AF"]

/-- The property `Radical`. -/
def radical : List (Nat × Nat) :=
  rangesOfText
  ["2E80-2E99 2E9B-2EF3 2F00-2FD5"]

/-- The property `IDS_Binary_Operator`. -/
def idsBinaryOperator : List (Nat × Nat) :=
  rangesOfText
  ["2FF0-2FF1 2FF4-2FFD 31EF"]

/-- The property `IDS_Trinary_Operator`. -/
def idsTrinaryOperator : List (Nat × Nat) :=
  rangesOfText
  ["2FF2-2FF3"]

/-- The property `IDS_Unary_Operator`. -/
def idsUnaryOperator : List (Nat × Nat) :=
  rangesOfText
  ["2FFE-2FFF"]

end Guardrail.Unicode
