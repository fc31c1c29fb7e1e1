/-!
# Binary fractions

A finite `Float` is a natural number times a power of two, with a sign. The other modules on
decimals compute with that pair in exact arithmetic.
-/

namespace Guardrail.Decimal

/-- A power of two. -/
def twoTo (n : Nat) : Nat := Nat.pow 2 n

/-- A power of ten. -/
def tenTo (n : Nat) : Nat := Nat.pow 10 n

/-- The number `mantissa * 2 ^ exponent`, negated when `negative`. -/
structure Binary where
  negative : Bool
  mantissa : Nat
  exponent : Int
  deriving DecidableEq, Repr

namespace Binary

/-- The biased exponent of the infinities and of what is not a number. -/
def specialExponent : Nat := 0x7ff

/-- The pair that a finite `Float` stands for; nothing for an infinity or a non-number. -/
def ofFloat? (x : Float) : Option Binary :=
  let bits := x.toBits.toNat
  let negative := bits / twoTo 63 = 1
  let biased := bits / twoTo 52 % twoTo 11
  let fraction := bits % twoTo 52
  if biased = specialExponent then none
  else if biased = 0 then some ⟨negative, fraction, -1074⟩
  else some ⟨negative, fraction + twoTo 52, biased - 1075⟩

/-- The magnitude as a quotient of natural numbers. -/
def magnitude (b : Binary) : Nat × Nat :=
  if 0 ≤ b.exponent then (b.mantissa * twoTo b.exponent.toNat, 1)
  else (b.mantissa, twoTo (-b.exponent).toNat)

end Binary

/-- A quotient of natural numbers to the nearest one, a half going away from zero. -/
def roundHalfUp (num den : Nat) : Nat :=
  (2 * num + den) / (2 * den)

/-- A quotient of natural numbers to the nearest one, a half going to the even neighbour. -/
def roundHalfEven (num den : Nat) : Nat :=
  let quotient := num / den
  let twice := 2 * (num % den)
  if twice < den then quotient
  else if den < twice then quotient + 1
  else if quotient % 2 = 0 then quotient
  else quotient + 1

/-- The `Float` to the nearest whole number, a half going away from zero. -/
def roundFloat (x : Float) : Float :=
  match Binary.ofFloat? x with
  | none => x
  | some b =>
    let (num, den) := b.magnitude
    let whole := Float.ofNat (roundHalfUp num den)
    if b.negative then -whole else whole

end Guardrail.Decimal
