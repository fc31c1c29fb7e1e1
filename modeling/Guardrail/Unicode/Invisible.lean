import Guardrail.Unicode.Category

/-!
# Invisible characters

Blanks, controls and what else has no shape of its own.
-/

namespace Guardrail.Unicode

/-- The property `White_Space`. -/
def whiteSpace : List (Nat × Nat) :=
  rangesOfText
  ["9-D 20 85 A0 1680 2000-200A 2028-2029 202F 205F 3000"]

/-- The property `Pattern_White_Space`. -/
def patternWhiteSpace : List (Nat × Nat) :=
  rangesOfText
  ["9-D 20 85 200E-200F 2028-2029"]

/-- The property `Join_Control`. -/
def joinControl : List (Nat × Nat) :=
  rangesOfText
  ["200C-200D"]

/-- The property `Bidi_Control`. -/
def bidiControl : List (Nat × Nat) :=
  rangesOfText
  ["61C 200E-200F 202A-202E 2066-2069"]

/-- The property `Variation_Selector`. -/
def variationSelector : List (Nat × Nat) :=
  rangesOfText
  ["180B-180D 180F FE00-FE0F E0100-E01EF"]

/-- The property `Prepended_Concatenation_Mark`. -/
def prependedConcatenationMark : List (Nat × Nat) :=
  rangesOfText
  ["600-605 6DD 70F 890-891 8E2 110BD 110CD"]

/-- The property `Noncharacter_Code_Point`. -/
def noncharacterCodePoint : List (Nat × Nat) :=
  rangesOfText
  ["FDD0-FDEF FFFE-FFFF 1FFFE-1FFFF 2FFFE-2FFFF 3FFFE-3FFFF 4FFFE-4FFFF 5FFFE-5FFFF 6FFFE-6FFFF",
   "7FFFE-7FFFF 8FFFE-8FFFF 9FFFE-9FFFF AFFFE-AFFFF BFFFE-BFFFF CFFFE-CFFFF DFFFE-DFFFF",
   "EFFFE-EFFFF FFFFE-FFFFF 10FFFE-10FFFF"]

/-- The property `Deprecated`. -/
def deprecated : List (Nat × Nat) :=
  rangesOfText
  ["149 673 F77 F79 17A3-17A4 206A-206F 2329-232A E0001"]

/-- Code points that are ignored by default although they are neither formats nor variation
selectors. -/
def otherDefaultIgnorable : List (Nat × Nat) :=
  rangesOfText
  ["34F 115F-1160 17B4-17B5 2065 3164 FFA0 FFF0-FFF8 E0000 E0002-E001F E0080-E00FF E01F0-E0FFF"]

/-- The property `Default_Ignorable_Code_Point`. -/
def defaultIgnorable : List (Nat × Nat) :=
  difference
    (normalize (otherDefaultIgnorable ++ categoryRanges "Cf" ++ variationSelector))
    (normalize (whiteSpace ++ prependedConcatenationMark ++ [(0xfff9, 0xfffb), (0x13430, 0x13440)]))

end Guardrail.Unicode
