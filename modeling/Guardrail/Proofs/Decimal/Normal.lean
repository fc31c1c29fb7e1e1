import Guardrail.Decimal.Fixed
import Mathlib.Algebra.Group.Nat.Defs

/-!
# Normal binary fractions

A `Float` of normal size is a mantissa of 53 bits and an exponent. The operations on `Float` compute
on that pair, and give it back where the exact result has one.
-/

namespace Guardrail.Decimal

open Float.Model Float.Model.UnpackedFloat

/-- A number with the mantissa of a normal binary fraction: its leading bit is the highest there is. -/
structure IsNormal (m : Nat) (e : Int) : Prop where
  lower : 2 ^ 52 ≤ m
  upper : m < 2 ^ 53
  least : -1074 ≤ e
  greatest : e ≤ 971

variable {m n u k : Nat} {e : Int}

theorem log2_mul_two_pow {n : Nat} (hn : n ≠ 0) (k : Nat) : (n * 2 ^ k).log2 = n.log2 + k := by
  induction k with
  | zero => simp
  | succ k ih =>
      have hne : n * 2 ^ k ≠ 0 := Nat.mul_ne_zero hn (Nat.ne_of_gt (Nat.two_pow_pos k))
      rw [Nat.pow_succ', Nat.mul_left_comm, Nat.log2_two_mul hne, ih, Nat.add_assoc]

theorem IsNormal.pos (h : IsNormal m e) : 0 < m :=
  Nat.lt_of_lt_of_le (by decide) h.lower

theorem IsNormal.log2_eq (h : IsNormal m e) : m.log2 = 52 :=
  (Nat.log2_eq_iff (Nat.ne_of_gt h.pos)).mpr ⟨h.lower, h.upper⟩

/-- The mantissa and the two residual bits of `n / u`. -/
def quotient (n u : Nat) : ExtendedMantissa where
  mantissa := n / u
  roundBit := decide (u ≤ 2 * (n % u))
  stickyBit := decide (2 * (n % u) ≠ 0 ∧ 2 * (n % u) ≠ u)

theorem quotient_one (n : Nat) : quotient n 1 = ⟨n, false, false⟩ := by
  simp [quotient, Nat.mod_one]

theorem shiftRightOne_quotient (hu : 0 < u) : (quotient n u).shiftRightOne = quotient n (u * 2) := by
  have hrest := Nat.mod_lt n hu
  have hmod : n % (u * 2) = n % u + u * (n / u % 2) := Nat.mod_mul
  have hbit : n / u % 2 = 0 ∨ n / u % 2 = 1 := by omega
  simp only [ExtendedMantissa.shiftRightOne, quotient, Nat.div_div_eq_div_mul, hmod]
  -- the last bit of the quotient becomes the round bit, and both bits behind it the sticky one
  congr 1
  · rcases hbit with hbit | hbit
    · simp only [hbit, bne_self_eq_false, Nat.mul_zero, Nat.add_zero]
      rw [eq_comm, decide_eq_false_iff_not]
      omega
    · rw [hbit, Nat.mul_one, eq_comm, decide_eq_true (by omega)]
      rfl
  · rw [← Bool.decide_or, decide_eq_decide]
    rcases hbit with hbit | hbit
    · rw [hbit]
      omega
    · rw [hbit]
      omega

theorem shiftRight_eq_quotient (n k : Nat) :
    (⟨n, false, false⟩ : ExtendedMantissa) >>> k = quotient n (2 ^ k) := by
  change Nat.repeat ExtendedMantissa.shiftRightOne k _ = _
  induction k with
  | zero => rw [Nat.pow_zero, quotient_one, Nat.repeat]
  | succ k ih => rw [Nat.repeat, ih, shiftRightOne_quotient (Nat.two_pow_pos k), Nat.pow_succ]

theorem shiftRight_mul_two_pow (m k : Nat) :
    (⟨m * 2 ^ k, false, false⟩ : ExtendedMantissa) >>> k = ⟨m, false, false⟩ := by
  rw [shiftRight_eq_quotient, quotient, Nat.mul_div_cancel m (Nat.two_pow_pos k), Nat.mul_mod_left]
  simp

theorem targetExponent_totalExponent (n : Nat) (e : Int) :
    Format.binary64.targetExponent (totalExponent n e) = max (n.log2 + 1 + e - 53) (-1074) :=
  rfl

theorem IsNormal.shiftToTargetExponent_eq (h : IsNormal m e) (k : Nat) :
    shiftToTargetExponent .binary64 (m * 2 ^ k) (e - k) .exact = (⟨m, false, false⟩, e) := by
  have htarget : Format.binary64.targetExponent (totalExponent (m * 2 ^ k) (e - k)) = e := by
    have := h.least
    rw [targetExponent_totalExponent, log2_mul_two_pow (Nat.ne_of_gt h.pos), h.log2_eq]
    omega
  have hshift : (e - (e - k)).toNat = k := by omega
  simp only [shiftToTargetExponent, htarget, shiftToExponent, hshift,
    ExtendedMantissa.ofMantissaAndAccuracy, shiftRight_mul_two_pow]
  simp

/-- The second shift takes the powers of two out of the mantissa that the first one has left. -/
theorem IsNormal.roundWithAccuracy_of_shift (h : IsNormal m e) {s : Sign}
    {long : Nat} {low : Int} {em : ExtendedMantissa}
    (hfirst : shiftToTargetExponent .binary64 long low .exact = (em, e - k))
    (hround : em.roundedMantissa = m * 2 ^ k) :
    roundWithAccuracy .binary64 s long low .exact = .finite s m e h.pos := by
  have hne : m ≠ 0 := Nat.ne_of_gt h.pos
  rw [roundWithAccuracy, hfirst]
  dsimp only
  rw [hround, h.shiftToTargetExponent_eq k]
  exact dif_neg hne

theorem IsNormal.roundWithAccuracy_eq (h : IsNormal m e) (s : Sign) (k : Nat) :
    roundWithAccuracy .binary64 s (m * 2 ^ k) (e - k) .exact = .finite s m e h.pos := by
  have hfirst : shiftToTargetExponent .binary64 (m * 2 ^ k) (e - k) .exact =
      (⟨m, false, false⟩, e - (0 : Nat)) := by
    simpa using h.shiftToTargetExponent_eq k
  exact h.roundWithAccuracy_of_shift hfirst (Nat.mul_one m).symm

theorem IsNormal.pack_eq (h : IsNormal m e) (s : Sign) :
    UnpackedFloat.pack .binary64 (.finite s m e h.pos) =
      packComponents .binary64 s (.ofNat 11 (e + 1075).toNat) (.ofNat 52 m) := by
  have hleast := h.least
  have hgreatest := h.greatest
  have hexponent : e + (Format.binary64.exponentBias : Int) + (52 : Nat) = e + 1075 := by
    simp [Format.exponentBias]
    omega
  have hfits : ¬2 ^ 11 ≤ (e + 1075).toNat + 1 := by omega
  change (if 2 ^ 11 ≤ (e + (Format.binary64.exponentBias : Int) + (52 : Nat)).toNat + 1 then _
    else if m.log2 + 1 = 53 then _ else _) = _
  rw [hexponent, if_neg hfits, h.log2_eq, if_pos rfl]

/-- The sign is the foremost of the bits. -/
theorem sign_packComponents (s : Sign) (biased : BitVec 11) (fraction : BitVec 52) :
    Sign.ofBitVec (unpackSign (packComponents .binary64 s biased fraction)) = s := by
  change Sign.ofBitVec (BitVec.extractLsb' 63 1 (s.toBitVec ++ biased ++ fraction)) = s
  rw [BitVec.extractLsb'_append_eq_of_le (by decide),
    BitVec.extractLsb'_append_eq_of_le (by decide)]
  cases s with
  | negative => rfl
  | positive => rfl

/-- Bits with a common exponent are those of a number with a leading bit of its own. -/
theorem exists_unpack_eq {b : BitVec 64} {biased : BitVec 11}
    (hb : @unpackExponent .binary64 b = biased) (hspecial : biased ≠ -1#11)
    (hsubnormal : biased ≠ 0#11) :
    ∃ hpos, UnpackedFloat.unpack .binary64 b =
      .finite (.ofBitVec (@unpackSign .binary64 b)) (1#1 ++ @unpackMantissa .binary64 b).toNat
        (biased.toNat - 1075) hpos := by
  subst hb
  exact ⟨_, (if_neg hspecial).trans (dif_neg hsubnormal)⟩

theorem IsNormal.unpack_pack (h : IsNormal m e) (s : Sign) :
    UnpackedFloat.unpack .binary64 (UnpackedFloat.pack .binary64 (.finite s m e h.pos)) =
      .finite s m e h.pos := by
  have hleast := h.least
  have hgreatest := h.greatest
  have hlower := h.lower
  have hupper := h.upper
  have hexponent : (BitVec.ofNat 11 (e + 1075).toNat).toNat = (e + 1075).toNat := by
    rw [BitVec.toNat_ofNat, Nat.mod_eq_of_lt (by omega)]
  have hspecial : BitVec.ofNat 11 (e + 1075).toNat ≠ -1#11 := by
    rw [ne_eq, ← BitVec.toNat_inj, hexponent]
    simp
    omega
  have hsubnormal : BitVec.ofNat 11 (e + 1075).toNat ≠ 0#11 := by
    rw [ne_eq, ← BitVec.toNat_inj, hexponent]
    simp
    omega
  have hmantissa : (1#1 ++ BitVec.ofNat 52 m).toNat = m := by
    rw [BitVec.toNat_append, ← Nat.shiftLeft_add_eq_or_of_lt (BitVec.isLt _)]
    simp
    omega
  rw [h.pack_eq]
  obtain ⟨hpos, hunpack⟩ := exists_unpack_eq unpackExponent_packComponents hspecial hsubnormal
  rw [hunpack, UnpackedFloat.finite.injEq, sign_packComponents, unpackMantissa_packComponents,
    hmantissa, hexponent]
  exact ⟨rfl, rfl, by omega⟩

/-- The `Float` with a sign, a mantissa and an exponent. -/
def IsNormal.toFloat (h : IsNormal m e) (s : Sign) : Float :=
  .ofModel (.pack (.finite s m e h.pos))

theorem IsNormal.unpack_toFloat (h : IsNormal m e) (s : Sign) :
    (h.toFloat s).toModel.unpack = .finite s m e h.pos :=
  h.unpack_pack s

theorem IsNormal.neg_toFloat (h : IsNormal m e) :
    (h.toFloat .positive).neg = h.toFloat .negative := by
  change Float.ofModel (.pack ((h.toFloat .positive).toModel.unpack.neg)) = _
  rw [h.unpack_toFloat]
  rfl

/-- One, with as large a mantissa as it can have. -/
theorem isNormal_one : IsNormal (2 ^ 52) (-52) :=
  ⟨by decide, by decide, by decide, by decide⟩

theorem toFloat_one : Float.exactlyRepresentablePowersOfTen[0] = isNormal_one.toFloat .positive := by
  rfl

theorem IsNormal.mul_one (h : IsNormal m e) :
    h.toFloat .positive * isNormal_one.toFloat .positive = h.toFloat .positive := by
  change Float.ofModel (.pack (UnpackedFloat.mul .binary64 (h.toFloat .positive).toModel.unpack
    (isNormal_one.toFloat .positive).toModel.unpack)) = _
  rw [h.unpack_toFloat, isNormal_one.unpack_toFloat]
  change Float.ofModel (.pack (roundWithAccuracy .binary64 .positive (m * 2 ^ 52) (e - (52 : Nat))
    .exact)) = _
  rw [h.roundWithAccuracy_eq]
  rfl

theorem IsNormal.toFloat_toUInt64 (h : IsNormal m e) {n : Nat} (hm : n * 2 ^ k = m)
    (he : e = -k) : n.toUInt64.toFloat = h.toFloat .positive := by
  have hn : 0 < n := Nat.pos_of_mul_pos_right (hm ▸ h.pos)
  have hle : n ≤ n * 2 ^ k := Nat.le_mul_of_pos_right n (Nat.two_pow_pos k)
  have hupper := h.upper
  have hword : n.toUInt64.toNat = n := Nat.mod_eq_of_lt (by omega)
  have hlog : n.log2 + k = 52 := by
    rw [← log2_mul_two_pow (Nat.ne_of_gt hn), hm, h.log2_eq]
  have htarget : Format.binary64.targetExponent (totalExponent n 0) = e := by
    have := h.least
    rw [targetExponent_totalExponent]
    omega
  have hround : UnpackedFloat.round .binary64 .positive n 0 = .finite .positive m e h.pos := by
    have hshift : (0 - e).toNat = k := by omega
    have hexponent : 0 - (k : Int) = e - (0 : Nat) := by omega
    have hexact := h.roundWithAccuracy_eq .positive 0
    rw [UnpackedFloat.round, htarget, decreaseExponent, hshift, Nat.shiftLeft_eq, hm, hexponent]
    rwa [Nat.pow_zero, Nat.mul_one] at hexact
  change Float.ofModel
    (.pack (UnpackedFloat.normalize .binary64 (n.toUInt64.toNat : Int) 0 .positive)) = _
  have hcompare : compare (n : Int) 0 = .gt := by
    rw [Int.compare_eq_gt]
    omega
  rw [hword, UnpackedFloat.normalize, hcompare]
  dsimp only
  rw [Int.toNat_natCast, hround]
  rfl

theorem ofScientific_eq_roundWithAccuracy {n : Nat} (hne : n ≠ 0) :
    UnpackedFloat.ofScientific .binary64 n 0 =
      roundWithAccuracy .binary64 .positive (n * 2 ^ 53) (-53) .exact := by
  have hlarge : ¬(0 : Int) > 2 ^ 11 := by decide
  have hsmall : ¬(0 : Int) < -(2 ^ 11 + n.log2) := by omega
  rw [UnpackedFloat.ofScientific, dif_neg hne, if_neg hlarge, if_neg hsmall,
    if_pos (Int.le_refl 0)]
  change roundWithAccuracy .binary64 .positive (n <<< 53 * 1) (-53) .exact = _
  rw [Nat.mul_one, Nat.shiftLeft_eq]

theorem IsNormal.ofScientific_eq (h : IsNormal m e) {n : Nat}
    (hn : n * 2 ^ 53 = m * 2 ^ k) (he : e - k = -53) :
    Float.ofModel (.ofScientific n 0) = h.toFloat .positive := by
  have hne : n ≠ 0 := by
    rintro rfl
    have := Nat.mul_pos h.pos (Nat.two_pow_pos k)
    omega
  change Float.ofModel (.pack (UnpackedFloat.ofScientific .binary64 n 0)) = _
  rw [ofScientific_eq_roundWithAccuracy hne, hn, ← he, h.roundWithAccuracy_eq]
  rfl

theorem ofNat_eq_ofScientific {n : Nat} (h : 2 ^ 53 ≤ n) :
    Float.ofNat n = Float.ofModel (.ofScientific n 0) := by
  have hslow : ¬(n < 2 ^ 53 ∧ 0 ≤ 22) := fun hand => Nat.not_lt_of_le h hand.1
  change Float.ofScientific n false 0 = _
  rw [Float.ofScientific, dif_neg hslow]
  rfl

theorem IsNormal.ofNat_eq (h : IsNormal m e) {n : Nat}
    (hn : n * 2 ^ (-e).toNat = m * 2 ^ e.toNat) : Float.ofNat n = h.toFloat .positive := by
  have hlower := h.lower
  have hupper := h.upper
  change Float.ofScientific n false 0 = _
  by_cases hsmall : n < 2 ^ 53
  · have he : e ≤ 0 := by
      refine Int.not_lt.mp fun hpos => ?_
      have htwo : 2 ≤ 2 ^ e.toNat := Nat.le_pow (by omega)
      have hle := Nat.mul_le_mul hlower htwo
      have hzero : (-e).toNat = 0 := by omega
      rw [← hn, hzero] at hle
      omega
    have hm : n * 2 ^ (-e).toNat = m := by
      rw [hn, Int.toNat_of_nonpos he, Nat.pow_zero, Nat.mul_one]
    have hfast : n < 2 ^ 53 ∧ 0 ≤ 22 := ⟨hsmall, by decide⟩
    rw [Float.ofScientific, dif_pos hfast, toFloat_one, h.toFloat_toUInt64 hm (by omega)]
    exact h.mul_one
  · have he : 0 ≤ e := by
      refine Int.not_lt.mp fun hneg => ?_
      have hle : n ≤ n * 2 ^ (-e).toNat := Nat.le_mul_of_pos_right n (Nat.two_pow_pos _)
      rw [hn, Int.toNat_of_nonpos (Int.le_of_lt hneg)] at hle
      omega
    have hm : n * 2 ^ 53 = m * 2 ^ (e.toNat + 53) := by
      rw [Nat.pow_add, ← Nat.mul_assoc, ← hn, Int.toNat_of_nonpos (by omega), Nat.pow_zero,
        Nat.mul_one]
    exact (ofNat_eq_ofScientific (Nat.not_lt.mp hsmall)).trans (h.ofScientific_eq hm (by omega))

theorem IsNormal.toNat_toBits (h : IsNormal m e) (s : Sign) :
    (h.toFloat s).toBits.toNat =
      s.toBitVec.toNat * 2 ^ 63 + ((e + 1075).toNat * 2 ^ 52 + (m - 2 ^ 52)) := by
  have hleast := h.least
  have hgreatest := h.greatest
  have hlower := h.lower
  have hupper := h.upper
  change (UnpackedFloat.pack .binary64 (.finite s m e h.pos)).toNat = _
  rw [h.pack_eq]
  simp only [packComponents, BitVec.toNat_append, BitVec.toNat_ofNat]
  rw [← Nat.shiftLeft_add_eq_or_of_lt (by omega), ← Nat.shiftLeft_add_eq_or_of_lt (by omega)]
  simp only [Nat.shiftLeft_eq]
  omega

end Guardrail.Decimal
