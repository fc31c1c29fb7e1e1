import Guardrail.Text.Blank
import Guardrail.Text.Case

/-!
# Reading decimals

The number that a text in decimal notation stands for, rounded once to the nearest `Float`.
-/

namespace Guardrail.Decimal

/-- The number that a run of decimal digits stands for. -/
def natOfDigits (cs : List Char) : Nat :=
  cs.foldl (fun n c => 10 * n + (c.toNat - '0'.toNat)) 0

/-- The digits at the start of a text, and the rest. -/
def spanDigits (cs : List Char) : List Char × List Char :=
  cs.span Char.isDigit

/-- `mantissa * 10 ^ exponent` as a `Float`. Exponents so large that the result is infinite or
zero are not expanded. -/
def scaled (mantissa : Nat) (exponent : Int) : Float :=
  if mantissa = 0 then 0
  else if 400 < exponent then Float.ofScientific 1 false 400
  else if exponent + (Nat.log2 mantissa : Int) < -1200 then 0
  else if 0 ≤ exponent then Float.ofScientific mantissa false exponent.toNat
  else Float.ofScientific mantissa true (-exponent).toNat

/-- The exponent at the end of a number: nothing, or `e`, a sign that may be missing, and
digits. -/
def exponent? : List Char → Option Int
  | [] => some 0
  | c :: cs =>
    if c = 'e' ∨ c = 'E' then
      let (negative, digits) :=
        match cs with
        | '-' :: ds => (true, ds)
        | '+' :: ds => (false, ds)
        | ds => (false, ds)
      if digits.isEmpty || !digits.all Char.isDigit then none
      else some (if negative then -(natOfDigits digits : Int) else natOfDigits digits)
    else none

/-- The number that an unsigned text stands for: digits with a point among, before or after
them, and an exponent that may be missing. -/
def unsigned? (cs : List Char) : Option Float :=
  let (whole, rest) := spanDigits cs
  let (places, tail) :=
    match rest with
    | '.' :: more => spanDigits more
    | _ => ([], rest)
  if whole.isEmpty && places.isEmpty then none
  else (exponent? tail).map fun e => scaled (natOfDigits (whole ++ places)) (e - places.length)

/-- The number that a text stands for: a sign that may be missing, then digits, or `inf`,
`infinity` or `nan` in letters of any case. -/
def float? (cs : List Char) : Option Float :=
  let (negative, body) :=
    match cs with
    | '-' :: rest => (true, rest)
    | '+' :: rest => (false, rest)
    | rest => (false, rest)
  let word := Text.lower (String.ofList body)
  let value? :=
    if word = "inf" ∨ word = "infinity" then some (Float.ofScientific 1 false 400)
    else if word = "nan" then some (0 / 0)
    else unsigned? body
  value?.map fun x => if negative then -x else x

end Guardrail.Decimal
