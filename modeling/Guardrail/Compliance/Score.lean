import Guardrail.Decimal.Binary

/-!
# Scores

The score of an evaluation is the share of its applicable findings that passed, in percent to one
decimal place. It is computed in `Float` arithmetic; the same computation on rational numbers,
where every step is exact, is the measure of it.
-/

namespace Guardrail.Compliance

/-- The operations that a score needs. -/
structure Arithmetic (α : Type) where
  ofNat : Nat → α
  multiply : α → α → α
  divide : α → α → α
  /-- The nearest whole number, a half going away from zero. -/
  round : α → α

namespace Arithmetic

/-- Arithmetic on `Float`. -/
def float : Arithmetic Float :=
  { ofNat := Float.ofNat, multiply := (· * ·), divide := (· / ·), round := Decimal.roundFloat }

/-- A rational number to the nearest whole one, a half going away from zero. -/
def roundRat (x : Rat) : Rat :=
  if x < 0 then -(((-x + 1 / 2).floor : Int) : Rat) else ((x + 1 / 2).floor : Int)

/-- Exact arithmetic. -/
def rat : Arithmetic Rat :=
  { ofNat := fun n => (n : Rat), multiply := (· * ·), divide := (· / ·), round := roundRat }

end Arithmetic

/-- The score of `total` findings of which `passed` passed and `idle` were not applicable; 100 if
none was applicable. -/
def score {α : Type} (a : Arithmetic α) (passed total idle : Nat) : α :=
  let applicable := total - idle
  if applicable = 0 then a.ofNat 100
  else
    let percent := a.multiply (a.divide (a.ofNat passed) (a.ofNat applicable)) (a.ofNat 100)
    a.divide (a.round (a.multiply percent (a.ofNat 10))) (a.ofNat 10)

@[simp] theorem score_of_le {α : Type} (a : Arithmetic α) (passed : Nat) {total idle : Nat}
    (h : total ≤ idle) : score a passed total idle = a.ofNat 100 := by
  simp [score, Nat.sub_eq_zero_of_le h]

end Guardrail.Compliance
