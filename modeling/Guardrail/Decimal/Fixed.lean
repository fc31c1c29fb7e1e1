import Guardrail.Decimal.Notation

/-!
# Decimals with a fixed number of places

An amount of money is written with two places, rounded from its exact value with a half going to
the even neighbour, and a whole amount below `10 ^ 15` without any.
-/

namespace Guardrail.Decimal

/-- A quotient of natural numbers with `places` digits after the point. -/
def fixedMagnitude (places : Nat) (num den : Nat) : String :=
  let scaled := digitText (roundHalfEven (num * tenTo places) den)
  let padded := zeros (places + 1 - scaled.length) ++ scaled
  if places = 0 then padded else pointed padded (padded.length - places)

/-- A `Float` with `places` digits after the point. -/
def fixed (places : Nat) (x : Float) : String :=
  match Binary.ofFloat? x with
  | some b =>
    let (num, den) := b.magnitude
    (if b.negative then "-" else "") ++ fixedMagnitude places num den
  | none => if x.isNaN then "NaN" else if x < 0 then "-inf" else "inf"

/-- The whole number that a binary fraction is, if it is one. -/
def Binary.whole? (b : Binary) : Option Int :=
  let (num, den) := b.magnitude
  if num % den = 0 then some (if b.negative then -(num / den : Nat) else (num / den : Nat))
  else none

/-- The text of an amount: two places, or none if it is whole and below `10 ^ 15`. -/
def amountText (x : Float) : String :=
  match (Binary.ofFloat? x).bind Binary.whole? with
  | some n => if n.natAbs < tenTo 15 then intText n else fixed 2 x
  | none => fixed 2 x

end Guardrail.Decimal
