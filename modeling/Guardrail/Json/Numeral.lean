import Guardrail.Decimal.Binary
import Guardrail.Decimal.Reading
import Guardrail.Json.Basic

/-!
# Numerals

A JSON number is an integer if it is written without point and exponent and fits 64 bits. Any
other is read as a binary fraction in two roundings: its leading digits, as many as 64 bits hold,
are rounded to a fraction, and that is multiplied or divided by a power of ten.
-/

namespace Guardrail.Number

/-- The greatest integer that a number holds. -/
def greatest : Nat := Decimal.twoTo 64 - 1

/-- The leading digits as far as 64 bits hold them, and how many were left over. -/
def leadingDigits : Nat → List Char → Nat × Nat
  | n, [] => (n, 0)
  | n, c :: cs =>
    let next := 10 * n + (c.toNat - '0'.toNat)
    if greatest < next then (n, cs.length + 1) else leadingDigits next cs

/-- The parts of a numeral. -/
structure Numeral where
  negative : Bool
  whole : List Char
  places? : Option (List Char)
  exponent? : Option (Bool × List Char)
  deriving DecidableEq, Repr

/-- The exponent of a numeral: whether it is negative, and its digits. -/
def Numeral.exponentOf? : List Char → Option (Option (Bool × List Char))
  | [] => some none
  | c :: cs =>
    if c = 'e' ∨ c = 'E' then
      let (negative, digits) :=
        match cs with
        | '-' :: ds => (true, ds)
        | '+' :: ds => (false, ds)
        | ds => (false, ds)
      if digits.isEmpty || !digits.all Char.isDigit then none else some (some (negative, digits))
    else none

/-- The parts of a text that is a numeral: no zero in front of other digits, and digits on both
sides of the point. -/
def Numeral.ofChars? (cs : List Char) : Option Numeral :=
  let (negative, body) :=
    match cs with
    | '-' :: rest => (true, rest)
    | rest => (false, rest)
  let (whole, rest) := Decimal.spanDigits body
  if whole.isEmpty || (whole.head? = some '0' && whole.length ≠ 1) then none
  else
    match rest with
    | '.' :: more =>
      let (places, tail) := Decimal.spanDigits more
      if places.isEmpty then none
      else (exponentOf? tail).map (⟨negative, whole, some places, ·⟩)
    | _ => (exponentOf? rest).map (⟨negative, whole, none, ·⟩)

/-- A power of ten as a `Float`. -/
def powerOfTen (e : Nat) : Float :=
  Float.ofScientific 1 false e

/-- `x * 10 ^ e` in one rounding, or in two where the power is too small to be a `Float`; nothing
if the result is too large. -/
def scale? (x : Float) (e : Int) : Option Float :=
  let y? :=
    if 0 ≤ e then
      if e ≤ 308 then some (x * powerOfTen e.toNat)
      else if x == 0 then some x
      else none
    else if -308 ≤ e then some (x / powerOfTen (-e).toNat)
    else if -616 ≤ e then some (x / powerOfTen 308 / powerOfTen (-e - 308).toNat)
    else some (x / powerOfTen 308 / powerOfTen 308 / powerOfTen 308)
  y?.filter Float.isFinite

/-- The greatest exponent that is computed with. -/
def greatestExponent : Nat := Decimal.twoTo 31 - 1

/-- The binary fraction of a numeral; nothing if it is too large. -/
def Numeral.fraction? (n : Numeral) : Option Float :=
  let (lead, left) := leadingDigits 0 n.whole
  let places := n.places?.getD []
  let (mantissa, ignored) := leadingDigits lead places
  let shift : Int := (left : Int) - (places.length - ignored : Nat)
  let magnitude? :=
    match n.exponent? with
    | none => scale? (Float.ofNat mantissa) shift
    | some (negative, digits) =>
      let e := Decimal.natOfDigits digits
      if greatestExponent < e then
        if mantissa = 0 ∨ negative then some 0 else none
      else scale? (Float.ofNat mantissa) (if negative then shift - e else shift + e)
  magnitude?.map fun x => if n.negative then -x else x

/-- The number of a numeral. -/
def Numeral.toNumber? (n : Numeral) : Option Number :=
  let whole := Decimal.natOfDigits n.whole
  let written := n.places?.isNone && n.exponent?.isNone
  if written && !n.negative && whole ≤ greatest then some (.int whole)
  else if written && n.negative && whole ≠ 0 && whole ≤ Decimal.twoTo 63 then some (.int (-whole))
  else n.fraction?.map .fraction

end Guardrail.Number
