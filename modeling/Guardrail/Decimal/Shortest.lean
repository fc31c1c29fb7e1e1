import Guardrail.Decimal.Binary

/-!
# Shortest decimal digits

The decimal text of a `Float` has the fewest significant digits that still read back as the same
number, and of the decimals of that length the one nearest to it.

The reals that round to a finite binary fraction form an interval around it. For one digit, two
digits and so on, the two neighbours of the value on the grid of decimals of that length are held
against the interval; the first grid with a hit gives the answer.
-/

namespace Guardrail.Decimal

/-- The decimal `digits * 10 ^ exponent`. -/
structure Digits where
  digits : Nat
  exponent : Int
  deriving DecidableEq, Repr

/-- The number of decimal digits; zero has none. -/
def digitCount (n : Nat) : Nat :=
  if n = 0 then 0 else digitCount (n / 10) + 1

/-- The exponent of the leading digit of the positive quotient `num / den`. -/
def leadingExponent (num den : Nat) : Int :=
  if den ≤ num then digitCount (num / den) - 1
  else -(digitCount ((den + num - 1) / num - 1) : Int)

/-- The reals that round to a binary fraction, times a common factor: the fraction itself, the
ends of the interval, the denominator of all three, and whether the ends belong to it. -/
structure Neighbourhood where
  value : Nat
  lower : Nat
  upper : Nat
  denominator : Nat
  closed : Bool
  deriving DecidableEq, Repr

/-- The neighbourhood of a positive binary fraction. Below a power of two the gap is half as
wide. -/
def Neighbourhood.ofBinary (b : Binary) : Neighbourhood :=
  let below := if b.mantissa = twoTo 52 ∧ -1074 < b.exponent then 1 else 2
  let up := twoTo (b.exponent - 2).toNat
  { value := 4 * b.mantissa * up
    lower := (4 * b.mantissa - below) * up
    upper := (4 * b.mantissa + 2) * up
    denominator := twoTo (2 - b.exponent).toNat
    closed := b.mantissa % 2 = 0 }

/-- The same neighbourhood in units of `10 ^ k`. -/
def Neighbourhood.inUnits (n : Neighbourhood) (k : Int) : Neighbourhood :=
  let factor := tenTo (-k).toNat
  { value := n.value * factor
    lower := n.lower * factor
    upper := n.upper * factor
    denominator := n.denominator * tenTo k.toNat
    closed := n.closed }

/-- Whether a whole number lies in the neighbourhood. -/
def Neighbourhood.holds (n : Neighbourhood) (d : Nat) : Bool :=
  let point := d * n.denominator
  if n.closed then n.lower ≤ point && point ≤ n.upper
  else n.lower < point && point < n.upper

/-- The whole number next to the value that lies in the neighbourhood: of two the nearer one, and
the even one if they are equally near. -/
def Neighbourhood.nearest? (n : Neighbourhood) : Option Nat :=
  let down := n.value / n.denominator
  match n.holds down, n.holds (down + 1) with
  | true, false => some down
  | false, true => some (down + 1)
  | true, true => some (roundHalfEven n.value n.denominator)
  | false, false => none

/-- The first grid among those with `count`, `count + 1`, … digits that meets the neighbourhood. -/
def firstGrid (n : Neighbourhood) (leading : Int) (count : Nat) : Nat → Digits
  | 0 => ⟨roundHalfEven (n.inUnits (leading - count + 1)).value
      (n.inUnits (leading - count + 1)).denominator, leading - count + 1⟩
  | more + 1 =>
    let k := leading - count + 1
    match (n.inUnits k).nearest? with
    | some d => ⟨d, k⟩
    | none => firstGrid n leading (count + 1) more

/-- The decimal without the zeros at the end of its digits. -/
def Digits.dropZeros (d : Digits) : Digits :=
  if h : d.digits ≠ 0 ∧ d.digits % 10 = 0 then
    dropZeros ⟨d.digits / 10, d.exponent + 1⟩
  else d
termination_by d.digits
decreasing_by omega

/-- The shortest decimal that reads back as the positive binary fraction; seventeen digits
always suffice. -/
def shortest (b : Binary) : Digits :=
  let n := Neighbourhood.ofBinary b
  (firstGrid n (leadingExponent n.value n.denominator) 1 16).dropZeros

end Guardrail.Decimal
