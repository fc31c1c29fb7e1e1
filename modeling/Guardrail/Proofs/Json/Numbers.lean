import Guardrail.Json.Numeral
import Guardrail.Proofs.Decimal.Nearest
import Guardrail.Proofs.Json.Children

/-!
# Numbers of a value

Every number of a record is a rational number. Numbers are compared as binary fractions, though, and
an integer of more than 53 bits need not be one: it is then taken for the nearest, and so for other
numbers.
-/

namespace Guardrail

namespace Number

open Decimal

/-- A number that can be written down: an integer of 64 bits or a finite fraction. -/
def IsProper : Number → Prop
  | .int a => IsWord a
  | .fraction x => x.isFinite = true

/-- The rational number that a number is. -/
def value? : Number → Option ℚ
  | .int a => some a
  | .fraction x => Decimal.value? x

/-- The rational number that a number is compared as. -/
def nearest? : Number → Option ℚ
  | .int a => some (nearestInt a)
  | .fraction x => Decimal.value? x

/-- One number is taken for another. -/
def MistakenFor (m n : Number) : Prop :=
  m.value? ≠ n.value? ∧ m.nearest? = n.nearest?

/-- The number is greater than a limit. -/
def IsAbove (n : Number) (limit : Float) : Prop :=
  ∃ q l, n.value? = some q ∧ Decimal.value? limit = some l ∧ l < q

variable {m n : Number}

theorem IsProper.value?_toFloat (h : n.IsProper) : Decimal.value? n.toFloat = n.nearest? := by
  cases n with
  | int a => exact value?_ofInt (natAbs_lt_of_isWord h)
  | fraction x => rfl

theorem IsProper.exists_nearest?_eq (h : n.IsProper) : ∃ q, n.nearest? = some q := by
  cases n with
  | int a => exact ⟨_, rfl⟩
  | fraction x => exact Option.isSome_iff_exists.mp ((isSome_value? x).trans h)

/-- Numbers with one value are compared as one. -/
theorem nearest?_eq_of_value?_eq (h : m.value? = n.value?) : m.nearest? = n.nearest? := by
  cases m with
  | int a =>
      cases n with
      | int b =>
          obtain rfl : a = b := Int.cast_injective (Option.some.inj h)
          rfl
      | fraction y =>
          have hvalue : nearestInt a = a := nearestInt_eq_of_value? h.symm
          rw [nearest?, hvalue]
          exact h
  | fraction x =>
      cases n with
      | int b =>
          have hvalue : nearestInt b = b := nearestInt_eq_of_value? h
          rw [nearest?, nearest?, hvalue]
          exact h
      | fraction y => exact h

theorem beq_toFloat_iff (hm : m.IsProper) (hn : n.IsProper) :
    (m.toFloat == n.toFloat) = true ↔ m.value? = n.value? ∨ m.MistakenFor n := by
  obtain ⟨q, hq⟩ := hm.exists_nearest?_eq
  obtain ⟨r, hr⟩ := hn.exists_nearest?_eq
  have hnearest : (m.toFloat == n.toFloat) = true ↔ m.nearest? = n.nearest? := by
    rw [beq_iff (hm.value?_toFloat.trans hq) (hn.value?_toFloat.trans hr), hq, hr,
      Option.some.injEq]
  rw [hnearest]
  constructor
  · intro h
    by_cases hvalue : m.value? = n.value?
    · exact .inl hvalue
    · exact .inr ⟨hvalue, h⟩
  · rintro (hvalue | hmistaken)
    · exact nearest?_eq_of_value?_eq hvalue
    · exact hmistaken.2

/-- Only integers of more than 53 bits are taken for other numbers, or others for them. -/
theorem MistakenFor.exists_long (h : m.MistakenFor n) :
    ∃ a, (m = .int a ∨ n = .int a) ∧ 2 ^ 53 < a.natAbs := by
  have hexact {k : Number} (hk : ∀ a, k = .int a → a.natAbs ≤ 2 ^ 53) : k.nearest? = k.value? := by
    cases k with
    | int a => rw [nearest?, nearestInt_of_le (hk a rfl), value?]
    | fraction x => rfl
  by_contra hshort
  push Not at hshort
  refine h.1 ?_
  rw [← hexact fun a ha => hshort a (.inl ha), ← hexact fun a ha => hshort a (.inr ha), h.2]

/-- The first integer of 54 bits that is odd is taken for the one before it. -/
theorem mistakenFor_pred : MistakenFor (.int (2 ^ 53 + 1)) (.int (2 ^ 53)) := by
  constructor
  · intro h
    have hinteger : (2 ^ 53 + 1 : Int) = 2 ^ 53 := Int.cast_injective (Option.some.inj h)
    exact absurd hinteger (by decide)
  · have hnearest : nearestInt (2 ^ 53 + 1) = nearestInt (2 ^ 53) := by decide +kernel
    rw [nearest?, nearest?, hnearest]

/-- A number above a limit is compared as one above it, unless the limit is the nearest binary
fraction. -/
theorem toFloat_gt_iff {limit : Float} (hn : n.IsProper) (h : n.IsAbove limit) :
    n.toFloat > limit ↔ n.nearest? ≠ Decimal.value? limit := by
  obtain ⟨q, l, hq, hl, hlt⟩ := h
  obtain ⟨r, hr⟩ := hn.exists_nearest?_eq
  have hle : l ≤ r := by
    cases n with
    | int a =>
        obtain rfl := Option.some.inj hq
        obtain rfl := Option.some.inj hr
        obtain ⟨m, e, hfull, hmagnitude⟩ := exists_isFull hl
        exact le_nearestInt hfull hmagnitude hlt.le
    | fraction x =>
        obtain rfl : q = r := Option.some.inj (hq.symm.trans hr)
        exact hlt.le
  rw [gt_iff_lt, lt_iff hl (hn.value?_toFloat.trans hr), hr, hl, Ne, Option.some.injEq, eq_comm,
    lt_iff_le_and_ne]
  exact and_iff_right hle

/-! ## Numerals -/

theorem Numeral.isWord_of_toNumber? {k : Numeral} {a : Int} (h : k.toNumber? = some (.int a)) :
    IsWord a := by
  have hgreatest : greatest = 2 ^ 64 - 1 := rfl
  have hleast : twoTo 63 = 2 ^ 63 := rfl
  unfold toNumber? at h
  dsimp only at h
  split at h
  · rename_i hpositive
    obtain rfl := Number.int.inj (Option.some.inj h)
    simp only [Bool.and_eq_true, decide_eq_true_eq] at hpositive
    exact ⟨by omega, by omega⟩
  · split at h
    · rename_i hnegative
      obtain rfl := Number.int.inj (Option.some.inj h)
      simp only [Bool.and_eq_true, decide_eq_true_eq] at hnegative
      exact ⟨by omega, by omega⟩
    · obtain ⟨x, -, hx⟩ := Option.map_eq_some_iff.mp h
      cases hx

end Number

namespace Json

mutual

/-- The numbers in a value. -/
def numbers : Json → List Number
  | .number n => [n]
  | .array xs => itemNumbers xs
  | .object ms => memberNumbers ms
  | _ => []

/-- The numbers in the elements of an array. -/
def itemNumbers : List Json → List Number
  | [] => []
  | x :: xs => numbers x ++ itemNumbers xs

/-- The numbers in the members of an object. -/
def memberNumbers : List (String × Json) → List Number
  | [] => []
  | (_, x) :: ms => numbers x ++ memberNumbers ms

end

variable {n : Number}

theorem mem_itemNumbers {xs : List Json} : n ∈ itemNumbers xs ↔ ∃ x ∈ xs, n ∈ x.numbers := by
  induction xs with
  | nil => simp [itemNumbers]
  | cons x xs ih => simp [itemNumbers, ih]

theorem mem_memberNumbers {ms : List (String × Json)} :
    n ∈ memberNumbers ms ↔ ∃ m ∈ ms, n ∈ m.2.numbers := by
  induction ms with
  | nil => simp [memberNumbers]
  | cons m ms ih => simp [memberNumbers, ih]

theorem mem_numbers_of_mem_children {x : Json} {m : String × Json} (hm : m ∈ x.children)
    (hn : n ∈ m.2.numbers) : n ∈ x.numbers := by
  cases x with
  | object ms => exact mem_memberNumbers.mpr ⟨m, hm, hn⟩
  | array xs =>
      obtain ⟨-, -, -, hx⟩ := mem_numbered hm
      exact mem_itemNumbers.mpr ⟨m.2, hx, hn⟩
  | _ => simp [children] at hm

end Json

end Guardrail
