import Guardrail.Decimal.Shortest

/-!
# Decimal notation

How the shortest digits of a number are written out. The decisions that a format makes are the
fields of `Notation`; `render` follows them.
-/

namespace Guardrail.Decimal

/-- The decisions of a decimal format. -/
structure Format where
  /-- The least exponent of the leading digit that is still written with a point only. -/
  leastPositional : Int
  /-- The greatest exponent of the leading digit that is still written with a point only. -/
  greatestPositional : Int
  /-- What follows a whole number that is written with a point only. -/
  wholeMark : String
  /-- What announces the exponent. -/
  exponentMark : String
  /-- The sign of an exponent that is not negative. -/
  positiveSign : String
  deriving DecidableEq, Repr

/-- The decimal digits of a natural number. -/
def digitText (n : Nat) : String :=
  String.ofList (Nat.toDigits 10 n)

/-- A whole number in decimal digits. -/
def intText : Int → String
  | .ofNat n => digitText n
  | .negSucc n => "-" ++ digitText (n + 1)

/-- `count` zeros. -/
def zeros (count : Nat) : String :=
  String.ofList (List.replicate count '0')

/-- Digits with a point after the first `whole` of them. -/
def pointed (digits : String) (whole : Nat) : String :=
  String.ofList (digits.toList.take whole) ++ "." ++ String.ofList (digits.toList.drop whole)

namespace Format

/-- A decimal without exponent mark. -/
def positional (f : Format) (d : Digits) : String :=
  let text := digitText d.digits
  if 0 ≤ d.exponent then text ++ zeros d.exponent.toNat ++ f.wholeMark
  else
    let places := (-d.exponent).toNat
    if places < text.length then pointed text (text.length - places)
    else "0." ++ zeros (places - text.length) ++ text

/-- A decimal with one digit before the point and an exponent. -/
def scientific (f : Format) (d : Digits) : String :=
  let text := digitText d.digits
  let exponent := d.exponent + text.length - 1
  let lead := if text.length = 1 then text else pointed text 1
  lead ++ f.exponentMark ++ (if 0 ≤ exponent then f.positiveSign else "") ++ intText exponent

/-- The text of a positive decimal. -/
def magnitude (f : Format) (d : Digits) : String :=
  let leading := d.exponent + digitCount d.digits - 1
  if f.leastPositional ≤ leading ∧ leading ≤ f.greatestPositional then f.positional d
  else f.scientific d

/-- The text of a finite `Float`; nothing for an infinity or a non-number. -/
def render? (f : Format) (x : Float) : Option String :=
  (Binary.ofFloat? x).map fun b =>
    let text := if b.mantissa = 0 then "0" ++ f.wholeMark else f.magnitude (shortest b)
    if b.negative then "-" ++ text else text

end Format

/-- Digits after the point for a whole number are one zero; from `1e16` on and below `1e-5` there
is an exponent, which carries its sign. -/
def plain : Format where
  leastPositional := -5
  greatestPositional := 15
  wholeMark := ".0"
  exponentMark := "e"
  positiveSign := "+"

end Guardrail.Decimal
