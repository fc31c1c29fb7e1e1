import Guardrail.Proofs.Decimal.Normal
import Mathlib.Algebra.Order.Field.Power
import Mathlib.Algebra.Order.Field.Rat
import Mathlib.Tactic.NormNum
import Mathlib.Tactic.Ring

/-!
# The value of a binary fraction

A finite `Float` is a rational number: a mantissa times a power of two, with a sign. Its mantissa is
as long as it can be, so that the numbers compare as the exponents do, and where these agree as the
mantissas.
-/

namespace Guardrail.Decimal

open Float.Model Float.Model.UnpackedFloat

/-- The rational number that a finite `Float` is. -/
def value? (x : Float) : Option ℚ :=
  match x.toModel.unpack with
  | .zero _ => some 0
  | .finite s m e _ => some (s.apply m * 2 ^ e)
  | .infinity _ | .notANumber => none

/-- A mantissa as long as it can be: it has 53 bits, unless its exponent is the least. -/
structure IsFull (m : Nat) (e : Int) : Prop where
  upper : m < 2 ^ 53
  least : -1074 ≤ e
  long : 2 ^ 52 ≤ m ∨ e = -1074

variable {x y : Float} {q r : ℚ} {m m' : Nat} {e e' : Int} {s : Sign}

theorem isFull_of_unpack {h : 0 < m} (hx : x.toModel.unpack = .finite s m e h) : IsFull m e := by
  obtain ⟨bits, hbits⟩ : ∃ bits, x.toModel.unpack = UnpackedFloat.unpack .binary64 bits := ⟨_, rfl⟩
  rw [hbits] at hx
  have hfraction : (@unpackMantissa .binary64 bits).toNat < 2 ^ 52 := BitVec.isLt _
  by_cases hspecial : @unpackExponent .binary64 bits = -1#11
  · by_cases hzero : @unpackMantissa .binary64 bits = 0#52
    · cases hx.symm.trans ((if_pos hspecial).trans (if_pos hzero))
    · cases hx.symm.trans ((if_pos hspecial).trans (if_neg hzero))
  · by_cases hsubnormal : @unpackExponent .binary64 bits = 0#11
    · have hexponent : ((@unpackExponent .binary64 bits).toNat : Int) = 0 := by
        rw [hsubnormal]
        rfl
      by_cases hzero : @unpackMantissa .binary64 bits = 0#52
      · cases hx.symm.trans ((if_neg hspecial).trans ((if_pos hsubnormal).trans (dif_pos hzero)))
      · obtain ⟨-, rfl, rfl⟩ := UnpackedFloat.finite.inj
          (hx.symm.trans ((if_neg hspecial).trans ((if_pos hsubnormal).trans (dif_neg hzero))))
        change IsFull _ ((@unpackExponent .binary64 bits).toNat - 1075 + 1)
        rw [hexponent]
        exact ⟨Nat.lt_trans hfraction (by decide), by decide, .inr (by decide)⟩
    · obtain ⟨hpos, hunpack⟩ := exists_unpack_eq rfl hspecial hsubnormal
      obtain ⟨-, rfl, rfl⟩ := UnpackedFloat.finite.inj (hx.symm.trans hunpack)
      have hbiased : (@unpackExponent .binary64 bits).toNat ≠ 0 :=
        fun h => hsubnormal (BitVec.toNat_inj.mp h)
      have hmantissa : (1#1 ++ @unpackMantissa .binary64 bits).toNat =
          2 ^ 52 + (@unpackMantissa .binary64 bits).toNat := by
        rw [BitVec.toNat_append, ← Nat.shiftLeft_add_eq_or_of_lt hfraction]
        rfl
      rw [hmantissa]
      exact ⟨by omega, by omega, .inl (Nat.le_add_right _ _)⟩

/-- The greater exponent has the greater number, whatever the mantissas are. -/
theorem IsFull.lt_of_lt (h : IsFull m e) (h' : IsFull m' e') (he : e < e') :
    (m : ℚ) * 2 ^ e < m' * 2 ^ e' := by
  have hlong : 2 ^ 52 ≤ m' := h'.long.resolve_right fun hleast => by
    have := h.least
    omega
  have hupper : (m : ℚ) < 2 ^ 53 := mod_cast h.upper
  have hlower : (2 : ℚ) ^ 52 ≤ m' := mod_cast hlong
  calc (m : ℚ) * 2 ^ e < 2 ^ 53 * 2 ^ e := by gcongr
    _ = 2 ^ 52 * 2 ^ (e + 1) := by
      rw [zpow_add_one₀ two_ne_zero]
      ring
    _ ≤ m' * 2 ^ e' := by
      gcongr
      · norm_num
      · omega

theorem IsFull.compare_eq (h : IsFull m e) (h' : IsFull m' e') :
    (compare e e').then (compare m m') = compare ((m : ℚ) * 2 ^ e) (m' * 2 ^ e') := by
  rcases lt_trichotomy e e' with hlt | rfl | hgt
  · rw [compare_lt_iff_lt.mpr hlt, compare_lt_iff_lt.mpr (h.lt_of_lt h' hlt)]
    rfl
  · have hpos : (0 : ℚ) < 2 ^ e := by positivity
    have hmono : StrictMono fun k : Nat => (k : ℚ) * 2 ^ e := Nat.strictMono_cast.mul_const hpos
    have hmantissas := hmono.cmp_map_eq m m'
    rw [cmp_eq_compare, cmp_eq_compare] at hmantissas
    rw [compare_eq_iff_eq.mpr rfl, hmantissas]
    rfl
  · rw [compare_gt_iff_gt.mpr hgt, compare_gt_iff_gt.mpr (h'.lt_of_lt h hgt)]
    rfl

/-- A finite `Float` is zero, or has a sign, a mantissa and an exponent. -/
theorem unpack_of_value? (hx : value? x = some q) :
    (∃ s, x.toModel.unpack = .zero s ∧ q = 0) ∨
      ∃ s m e, ∃ h : 0 < m, x.toModel.unpack = .finite s m e h ∧ q = s.apply m * 2 ^ e := by
  unfold value? at hx
  cases hunpack : x.toModel.unpack with
  | zero s =>
      rw [hunpack] at hx
      exact .inl ⟨s, rfl, (Option.some.inj hx).symm⟩
  | finite s m e h =>
      rw [hunpack] at hx
      exact .inr ⟨s, m, e, h, rfl, (Option.some.inj hx).symm⟩
  | infinity s =>
      rw [hunpack] at hx
      cases hx
  | notANumber =>
      rw [hunpack] at hx
      cases hx

theorem compare_neg (q r : ℚ) : compare (-q) (-r) = (compare q r).swap := by
  have hanti : StrictAnti fun q : ℚ => -q := fun _ _ => neg_lt_neg
  rw [← cmp_eq_compare, ← cmp_eq_compare, cmp_swap]
  exact hanti.cmp_map_eq q r

theorem positive_apply_mul (m : Nat) (e : Int) :
    ((Sign.positive.apply m : Int) : ℚ) * 2 ^ e = m * 2 ^ e := by
  rw [Sign.apply, Int.cast_natCast]

theorem negative_apply_mul (m : Nat) (e : Int) :
    ((Sign.negative.apply m : Int) : ℚ) * 2 ^ e = -(m * 2 ^ e) := by
  rw [Sign.apply, Int.cast_neg, Int.cast_natCast, neg_mul]

/-- Two finite numbers compare as their values do. -/
theorem compare_unpack (hx : value? x = some q) (hy : value? y = some r) :
    x.toModel.unpack.compare y.toModel.unpack = some (compare q r) := by
  have hpos {m : Nat} (hm : 0 < m) (e : Int) : (0 : ℚ) < m * 2 ^ e := by positivity
  have hneg {m : Nat} (hm : 0 < m) (e : Int) : -((m : ℚ) * 2 ^ e) < 0 := neg_neg_of_pos (hpos hm e)
  rcases unpack_of_value? hx with ⟨s, hs, rfl⟩ | ⟨s, m, e, hm, hs, rfl⟩
  · rcases unpack_of_value? hy with ⟨t, ht, rfl⟩ | ⟨t, m', e', hm', ht, rfl⟩
    · rw [hs, ht, compare_eq_iff_eq.mpr rfl]
      rfl
    · rw [hs, ht]
      cases t with
      | positive =>
          rw [positive_apply_mul, compare_lt_iff_lt.mpr (hpos hm' e')]
          rfl
      | negative =>
          rw [negative_apply_mul, compare_gt_iff_gt.mpr (hneg hm' e')]
          rfl
  · rcases unpack_of_value? hy with ⟨t, ht, rfl⟩ | ⟨t, m', e', hm', ht, rfl⟩
    · rw [hs, ht]
      cases s with
      | positive =>
          rw [positive_apply_mul, compare_gt_iff_gt.mpr (hpos hm e)]
          rfl
      | negative =>
          rw [negative_apply_mul, compare_lt_iff_lt.mpr (hneg hm e)]
          rfl
    · have hcompare := (isFull_of_unpack hs).compare_eq (isFull_of_unpack ht)
      rw [hs, ht]
      cases s with
      | positive =>
          cases t with
          | positive =>
              rw [positive_apply_mul, positive_apply_mul, ← hcompare]
              rfl
          | negative =>
              rw [positive_apply_mul, negative_apply_mul,
                compare_gt_iff_gt.mpr ((hneg hm' e').trans (hpos hm e))]
              rfl
      | negative =>
          cases t with
          | positive =>
              rw [negative_apply_mul, positive_apply_mul,
                compare_lt_iff_lt.mpr ((hneg hm e).trans (hpos hm' e'))]
              rfl
          | negative =>
              rw [negative_apply_mul, negative_apply_mul, compare_neg, ← hcompare]
              rfl

theorem beq_iff (hx : value? x = some q) (hy : value? y = some r) : (x == y) = true ↔ q = r := by
  change (x.toModel.unpack.compare y.toModel.unpack == some .eq) = true ↔ q = r
  rw [compare_unpack hx hy, beq_iff_eq, Option.some.injEq, compare_eq_iff_eq]

theorem lt_iff (hx : value? x = some q) (hy : value? y = some r) : x < y ↔ q < r := by
  change decide ((x.toModel.unpack.compare y.toModel.unpack == some .lt) = true) = true ↔ q < r
  rw [compare_unpack hx hy, decide_eq_true_eq, beq_iff_eq, Option.some.injEq, compare_lt_iff_lt]

theorem isSome_value? (x : Float) : (value? x).isSome = x.isFinite := by
  change _ = x.toModel.unpack.isFinite
  unfold value?
  cases x.toModel.unpack <;> rfl

/-- Apart from its sign every finite number is a mantissa as long as it can be and its exponent. -/
theorem exists_isFull (hx : value? x = some q) : ∃ m e, IsFull m e ∧ |q| = m * 2 ^ e := by
  rcases unpack_of_value? hx with ⟨s, -, rfl⟩ | ⟨s, m, e, hm, hs, rfl⟩
  · exact ⟨0, -1074, ⟨by decide, Int.le_refl _, .inr rfl⟩, by simp⟩
  · refine ⟨m, e, isFull_of_unpack hs, ?_⟩
    have hpos : (0 : ℚ) < m * 2 ^ e := by positivity
    cases s with
    | positive => rw [positive_apply_mul, abs_of_pos hpos]
    | negative => rw [negative_apply_mul, abs_neg, abs_of_pos hpos]

theorem IsNormal.value?_toFloat (h : IsNormal m e) (s : Sign) :
    value? (h.toFloat s) = some ((s.apply m : Int) * (2 : ℚ) ^ e) := by
  rw [value?, h.unpack_toFloat]

end Guardrail.Decimal
