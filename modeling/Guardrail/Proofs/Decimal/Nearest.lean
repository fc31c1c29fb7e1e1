import Guardrail.Proofs.Decimal.Value

/-!
# The binary fraction nearest to an integer

An integer of up to 53 bits is a binary fraction itself. A longer one loses its last bits: it is
divided by a power of two, rounded to the nearest whole number, a half going to the even neighbour,
and multiplied back. Two integers are the same binary fraction where this leads to the same integer,
and no binary fraction lies between an integer and what it leads to.
-/

namespace Guardrail.Decimal

open Float.Model Float.Model.UnpackedFloat

/-- The power of two that the binary fractions of the size of a number are multiples of, as long
as it is a whole number; one below that. -/
def unit (n : Nat) : Nat :=
  2 ^ (n.log2 - 52)

theorem unit_pos (n : Nat) : 0 < unit n :=
  Nat.two_pow_pos _

/-- The nearest whole number that is a binary fraction. -/
def nearest (n : Nat) : Nat :=
  roundHalfEven n (unit n) * unit n

/-- The nearest integer that is a binary fraction. -/
def nearestInt (a : Int) : Int :=
  a.sign * nearest a.natAbs

variable {n m k u : Nat} {e : Int}

/-! ## Rounding -/

theorem roundedMantissa_down (m : Nat) (sticky : Bool) :
    ExtendedMantissa.roundedMantissa ⟨m, false, sticky⟩ = m := by
  cases sticky with
  | false => rfl
  | true => rfl

theorem roundedMantissa_half (m : Nat) :
    ExtendedMantissa.roundedMantissa ⟨m, true, false⟩ = m + m % 2 := rfl

theorem roundedMantissa_up (m : Nat) :
    ExtendedMantissa.roundedMantissa ⟨m, true, true⟩ = m + 1 := rfl

theorem roundedMantissa_quotient (hu : 0 < u) :
    (quotient n u).roundedMantissa = roundHalfEven n u := by
  rw [roundHalfEven, quotient]
  rcases Nat.lt_trichotomy (2 * (n % u)) u with hlt | heq | hgt
  · rw [decide_eq_false (Nat.not_le.mpr hlt), roundedMantissa_down, if_pos hlt]
  · have hsticky : ¬(2 * (n % u) ≠ 0 ∧ 2 * (n % u) ≠ u) := fun h => h.2 heq
    rw [decide_eq_true (Nat.le_of_eq heq.symm), decide_eq_false hsticky, roundedMantissa_half,
      if_neg (Nat.not_lt.mpr (Nat.le_of_eq heq.symm)), if_neg (Nat.not_lt.mpr (Nat.le_of_eq heq))]
    split
    · omega
    · omega
  · have hsticky : 2 * (n % u) ≠ 0 ∧ 2 * (n % u) ≠ u := by omega
    rw [decide_eq_true (Nat.le_of_lt hgt), decide_eq_true hsticky, roundedMantissa_up,
      if_neg (Nat.not_lt_of_gt hgt), if_pos hgt]

theorem roundHalfEven_one (n : Nat) : roundHalfEven n 1 = n := by
  simp [roundHalfEven, Nat.mod_one]

theorem roundHalfEven_mul_right (n u : Nat) {c : Nat} (hc : 0 < c) :
    roundHalfEven (n * c) (u * c) = roundHalfEven n u := by
  simp only [roundHalfEven, Nat.mul_div_mul_right n u hc, Nat.mul_mod_mul_right, ← Nat.mul_assoc,
    Nat.mul_lt_mul_right hc]

theorem roundHalfEven_cases (n u : Nat) :
    (roundHalfEven n u = n / u ∧ 2 * (n % u) ≤ u) ∨
      (roundHalfEven n u = n / u + 1 ∧ u ≤ 2 * (n % u)) := by
  unfold roundHalfEven
  dsimp only
  split_ifs <;> omega

/-- Halfway between two binary fractions the one with the even mantissa is taken. -/
example : nearest (2 ^ 53 + 1) = 2 ^ 53 ∧ nearest (2 ^ 53 + 3) = 2 ^ 53 + 4 := by
  decide +kernel

theorem log2_le_of_lt {j : Nat} (h : n < 2 ^ (j + 1)) : n.log2 ≤ j := by
  by_cases hn : n = 0
  · simp [hn]
  · exact Nat.le_of_lt_succ ((Nat.log2_lt hn).mpr h)

theorem nearest_of_le (h : n ≤ 2 ^ 53) : nearest n = n := by
  rcases Nat.lt_or_eq_of_le h with hlt | rfl
  · have hunit : unit n = 1 := by
      rw [unit, Nat.sub_eq_zero_of_le (log2_le_of_lt hlt), Nat.pow_zero]
    rw [nearest, hunit, roundHalfEven_one, Nat.mul_one]
  · decide +kernel

theorem two_pow_mul_unit_le (h : 2 ^ 53 ≤ n) : 2 ^ 52 * unit n ≤ n := by
  have hne : n ≠ 0 := by omega
  have hlog : 53 ≤ n.log2 := (Nat.le_log2 hne).mpr h
  rw [unit, ← Nat.pow_add, Nat.add_sub_cancel' (by omega)]
  exact Nat.log2_self_le hne

/-- What is left of a number of more than 53 bits has 53, or is one too large for that. -/
theorem roundHalfEven_unit_bounds (h : 2 ^ 53 ≤ n) :
    2 ^ 52 ≤ roundHalfEven n (unit n) ∧ roundHalfEven n (unit n) ≤ 2 ^ 53 := by
  have hne : n ≠ 0 := by omega
  have hlog : 53 ≤ n.log2 := (Nat.le_log2 hne).mpr h
  have hupper : n < 2 ^ 53 * unit n := by
    have hsum : 53 + (n.log2 - 52) = n.log2 + 1 := by omega
    rw [unit, ← Nat.pow_add, hsum]
    exact Nat.lt_log2_self
  have hleast := (Nat.le_div_iff_mul_le (unit_pos n)).mpr (two_pow_mul_unit_le h)
  have hmost := (Nat.div_lt_iff_lt_mul (unit_pos n)).mpr hupper
  rcases roundHalfEven_cases n (unit n) with ⟨hround, -⟩ | ⟨hround, -⟩
  · rw [hround]
    exact ⟨hleast, Nat.le_of_lt hmost⟩
  · rw [hround]
    exact ⟨Nat.le_succ_of_le hleast, hmost⟩

theorem exists_isNormal_of_le {d : Nat} (hlower : 2 ^ 52 ≤ n) (hupper : n ≤ 2 ^ 53) (hd : d ≤ 970) :
    ∃ m e k, IsNormal m e ∧ n = m * 2 ^ k ∧ (d : Int) = e - (k : Nat) := by
  rcases Nat.lt_or_eq_of_le hupper with hlt | rfl
  · exact ⟨n, d, 0, ⟨hlower, hlt, by omega, by omega⟩, by simp, by simp⟩
  · exact ⟨2 ^ 52, d + 1, 1, ⟨by decide, by decide, by omega, by omega⟩, by decide, by omega⟩

/-- A long number is rounded in one step, and the mantissa that has become too long for its size is
halved in a second. -/
theorem roundWithAccuracy_eq_nearest (h : 2 ^ 53 ≤ n) {m : Nat} {e : Int} (hnormal : IsNormal m e)
    (hround : roundHalfEven n (unit n) = m * 2 ^ k) (he : ((n.log2 - 52 : Nat) : Int) = e - k) :
    roundWithAccuracy .binary64 .positive (n * 2 ^ 53) (-53) .exact =
      .finite .positive m e hnormal.pos := by
  have hne : n ≠ 0 := by omega
  have hlog : 53 ≤ n.log2 := (Nat.le_log2 hne).mpr h
  have htarget : Format.binary64.targetExponent (totalExponent (n * 2 ^ 53) (-53)) =
      (n.log2 - 52 : Nat) := by
    rw [targetExponent_totalExponent, log2_mul_two_pow hne]
    omega
  have hamount : (((n.log2 - 52 : Nat) : Int) - -53).toNat = n.log2 - 52 + 53 := by omega
  have hfirst : shiftToTargetExponent .binary64 (n * 2 ^ 53) (-53) .exact =
      (quotient (n * 2 ^ 53) (unit n * 2 ^ 53), e - k) := by
    rw [shiftToTargetExponent, htarget, shiftToExponent, hamount,
      ExtendedMantissa.ofMantissaAndAccuracy, shiftRight_eq_quotient, Nat.pow_add, ← he]
    refine congrArg (Prod.mk _) ?_
    omega
  have hrounded : (quotient (n * 2 ^ 53) (unit n * 2 ^ 53)).roundedMantissa = m * 2 ^ k := by
    rw [roundedMantissa_quotient (Nat.mul_pos (unit_pos n) (Nat.two_pow_pos 53)),
      roundHalfEven_mul_right n (unit n) (Nat.two_pow_pos 53), hround]
  exact hnormal.roundWithAccuracy_of_shift hfirst hrounded

theorem exists_ofNat_eq (hpos : 0 < n) (hlt : n < 2 ^ 64) :
    ∃ m e, ∃ h : IsNormal m e, Float.ofNat n = h.toFloat .positive ∧
      (nearest n : ℚ) = m * 2 ^ e := by
  have hne : n ≠ 0 := Nat.ne_of_gt hpos
  rcases Nat.lt_or_ge n (2 ^ 53) with hshort | hlong
  · have hlog := log2_le_of_lt hshort
    have hsize : (n * 2 ^ (52 - n.log2)).log2 = 52 := by
      rw [log2_mul_two_pow hne]
      omega
    have hbounds := (Nat.log2_eq_iff (Nat.mul_ne_zero hne (Nat.ne_of_gt (Nat.two_pow_pos _)))).mp hsize
    have hnormal : IsNormal (n * 2 ^ (52 - n.log2)) (-(52 - n.log2 : Nat)) :=
      ⟨hbounds.1, hbounds.2, by omega, by omega⟩
    have hvalue : n * 2 ^ (- -((52 - n.log2 : Nat) : Int)).toNat =
        n * 2 ^ (52 - n.log2) * 2 ^ (-((52 - n.log2 : Nat) : Int)).toNat := by
      rw [Int.neg_neg, Int.toNat_natCast, Int.toNat_of_nonpos (by omega), Nat.pow_zero, Nat.mul_one]
    refine ⟨_, _, hnormal, hnormal.ofNat_eq hvalue, ?_⟩
    rw [nearest_of_le (Nat.le_of_lt hshort), Nat.cast_mul, Nat.cast_pow, Nat.cast_ofNat, zpow_neg, zpow_natCast,
      mul_inv_cancel_right₀ (pow_ne_zero _ two_ne_zero)]
  · have hlog : 53 ≤ n.log2 := (Nat.le_log2 hne).mpr hlong
    have hsize : n.log2 ≤ 63 := log2_le_of_lt hlt
    have hbounds := roundHalfEven_unit_bounds hlong
    obtain ⟨m, e, k, hnormal, hround, he⟩ := exists_isNormal_of_le hbounds.1 hbounds.2
      (by omega : n.log2 - 52 ≤ 970)
    refine ⟨m, e, hnormal, ?_, ?_⟩
    · rw [ofNat_eq_ofScientific hlong]
      change Float.ofModel (.pack (UnpackedFloat.ofScientific .binary64 n 0)) = _
      rw [ofScientific_eq_roundWithAccuracy hne, roundWithAccuracy_eq_nearest hlong hnormal hround he]
      rfl
    · have hexponent : e = (k + (n.log2 - 52) : Nat) := by omega
      rw [nearest, hround, unit, hexponent, zpow_natCast, Nat.mul_assoc, ← Nat.pow_add,
        Nat.cast_mul, Nat.cast_pow, Nat.cast_ofNat]

theorem value?_ofNat (h : n < 2 ^ 64) : value? (Float.ofNat n) = some (nearest n : ℚ) := by
  rcases Nat.eq_zero_or_pos n with rfl | hpos
  · rfl
  · obtain ⟨m, e, hnormal, hfloat, hvalue⟩ := exists_ofNat_eq hpos h
    rw [hfloat, hnormal.value?_toFloat, positive_apply_mul, hvalue]

theorem nearestInt_natCast (n : Nat) : nearestInt n = nearest n := by
  rcases Nat.eq_zero_or_pos n with rfl | hpos
  · rfl
  · rw [nearestInt, Int.natAbs_natCast, Int.sign_natCast_of_ne_zero (Nat.ne_of_gt hpos), Int.one_mul]

theorem nearestInt_neg (a : Int) : nearestInt (-a) = -nearestInt a := by
  rw [nearestInt, nearestInt, Int.sign_neg, Int.natAbs_neg, Int.neg_mul]

theorem value?_ofInt {a : Int} (h : a.natAbs < 2 ^ 64) :
    value? (Float.ofInt a) = some (nearestInt a : ℚ) := by
  cases a with
  | ofNat n =>
      rw [Int.ofNat_eq_natCast, nearestInt_natCast, Int.cast_natCast]
      exact value?_ofNat h
  | negSucc n =>
      obtain ⟨m, e, hnormal, hfloat, hvalue⟩ := exists_ofNat_eq (Nat.succ_pos n) h
      have hnegative : Float.ofInt (Int.negSucc n) = hnormal.toFloat .negative := by
        rw [← hnormal.neg_toFloat, ← hfloat]
        rfl
      rw [hnegative, hnormal.value?_toFloat, negative_apply_mul, Int.negSucc_eq, nearestInt_neg,
        ← Nat.cast_succ, nearestInt_natCast, Int.cast_neg, Int.cast_natCast, hvalue]

/-! ## Order -/

/-- A mantissa as long as it can be has no unit below that of a smaller number. -/
theorem IsFull.exists_eq_mul_unit (h : IsFull m e) (hle : (2 : ℚ) ^ 52 * unit n ≤ m * 2 ^ e) :
    ∃ c : Nat, (m : ℚ) * 2 ^ e = c * unit n := by
  have hupper : (m : ℚ) < 2 ^ 53 := mod_cast h.upper
  have hunit : (unit n : ℚ) = 2 ^ ((n.log2 - 52 : Nat) : Int) := by
    rw [unit, Nat.cast_pow, Nat.cast_ofNat, zpow_natCast]
  have hlt : (2 : ℚ) ^ (52 + ((n.log2 - 52 : Nat) : Int)) < 2 ^ (53 + e) :=
    calc (2 : ℚ) ^ (52 + ((n.log2 - 52 : Nat) : Int)) = 2 ^ 52 * unit n := by
          rw [zpow_add₀ two_ne_zero, hunit]
          rfl
      _ ≤ m * 2 ^ e := hle
      _ < 2 ^ 53 * 2 ^ e := by gcongr
      _ = 2 ^ (53 + e) := by
          rw [zpow_add₀ two_ne_zero]
          rfl
  have hexponent : 52 + ((n.log2 - 52 : Nat) : Int) < 53 + e :=
    (zpow_lt_zpow_iff_right₀ one_lt_two).mp hlt
  obtain ⟨k, hk⟩ : ∃ k : Nat, e = k + ((n.log2 - 52 : Nat) : Int) :=
    ⟨(e - (n.log2 - 52 : Nat)).toNat, by omega⟩
  refine ⟨m * 2 ^ k, ?_⟩
  rw [hunit, hk, zpow_add₀ two_ne_zero, zpow_natCast, Nat.cast_mul, Nat.cast_pow, Nat.cast_ofNat,
    mul_assoc]

theorem le_nearest_of_le (h : IsFull m e) (hle : (m : ℚ) * 2 ^ e ≤ n) :
    (m : ℚ) * 2 ^ e ≤ nearest n := by
  rcases Nat.lt_or_ge n (2 ^ 53) with hshort | hlong
  · rwa [nearest_of_le (Nat.le_of_lt hshort)]
  · have hleast : (2 : ℚ) ^ 52 * unit n ≤ nearest n :=
      mod_cast Nat.mul_le_mul_right (unit n) (roundHalfEven_unit_bounds hlong).1
    rcases le_total ((m : ℚ) * 2 ^ e) (2 ^ 52 * unit n) with hsmall | hlarge
    · exact hsmall.trans hleast
    · obtain ⟨c, hc⟩ := h.exists_eq_mul_unit hlarge
      rw [hc] at hle ⊢
      have hquotient : c ≤ n / unit n := (Nat.le_div_iff_mul_le (unit_pos n)).mpr (mod_cast hle)
      have hround : c ≤ roundHalfEven n (unit n) := by
        rcases roundHalfEven_cases n (unit n) with ⟨hround, -⟩ | ⟨hround, -⟩
        · rwa [hround]
        · rw [hround]
          exact Nat.le_succ_of_le hquotient
      exact mod_cast Nat.mul_le_mul_right (unit n) hround

theorem nearest_le_of_le (h : IsFull m e) (hle : (n : ℚ) ≤ m * 2 ^ e) :
    (nearest n : ℚ) ≤ m * 2 ^ e := by
  rcases Nat.lt_or_ge n (2 ^ 53) with hshort | hlong
  · rwa [nearest_of_le (Nat.le_of_lt hshort)]
  · have hleast : (2 : ℚ) ^ 52 * unit n ≤ n := mod_cast two_pow_mul_unit_le hlong
    obtain ⟨c, hc⟩ := h.exists_eq_mul_unit (hleast.trans hle)
    rw [hc] at hle ⊢
    have hproduct : n ≤ c * unit n := mod_cast hle
    have hround : roundHalfEven n (unit n) ≤ c := by
      rcases roundHalfEven_cases n (unit n) with ⟨hround, -⟩ | ⟨hround, hrest⟩
      · rw [hround]
        exact Nat.div_le_of_le_mul (Nat.mul_comm c _ ▸ hproduct)
      · rw [hround]
        have hpos := unit_pos n
        have hparts := Nat.div_add_mod' n (unit n)
        refine Nat.lt_of_mul_lt_mul_right (a := unit n) ?_
        omega
    exact mod_cast Nat.mul_le_mul_right (unit n) hround

/-- No binary fraction lies between an integer and the nearest one. -/
theorem le_nearestInt {q : ℚ} {a : Int} (h : IsFull m e) (hq : |q| = m * 2 ^ e) (hle : q ≤ a) :
    q ≤ nearestInt a := by
  cases a with
  | ofNat n =>
      rw [Int.ofNat_eq_natCast, nearestInt_natCast, Int.cast_natCast]
      rcases le_total 0 q with hpos | hneg
      · rw [abs_of_nonneg hpos] at hq
        rw [hq] at hle ⊢
        exact le_nearest_of_le h hle
      · exact hneg.trans (Nat.cast_nonneg _)
  | negSucc n =>
      rw [Int.negSucc_eq, ← Nat.cast_succ, Int.cast_neg, Int.cast_natCast] at hle
      rw [Int.negSucc_eq, ← Nat.cast_succ, nearestInt_neg, nearestInt_natCast, Int.cast_neg,
        Int.cast_natCast]
      have hneg : q ≤ 0 := hle.trans (neg_nonpos.mpr (Nat.cast_nonneg _))
      rw [abs_of_nonpos hneg] at hq
      have hless : (nearest (n + 1) : ℚ) ≤ -q := hq ▸ nearest_le_of_le h (hq ▸ le_neg.mpr hle)
      exact le_neg.mpr hless

theorem nearestInt_le {q : ℚ} {a : Int} (h : IsFull m e) (hq : |q| = m * 2 ^ e) (hle : a ≤ q) :
    nearestInt a ≤ q := by
  have hneg : -q ≤ nearestInt (-a) :=
    le_nearestInt h (by rwa [abs_neg]) (by rw [Int.cast_neg]; exact neg_le_neg hle)
  rw [nearestInt_neg, Int.cast_neg] at hneg
  exact neg_le_neg_iff.mp hneg

/-- An integer that is a binary fraction is the nearest one to itself. -/
theorem nearestInt_eq_of_value? {x : Float} {a : Int} (hx : value? x = some (a : ℚ)) :
    nearestInt a = a := by
  obtain ⟨m, e, hfull, hq⟩ := exists_isFull hx
  have hle : ((nearestInt a : Int) : ℚ) ≤ a := nearestInt_le hfull hq (le_refl _)
  have hge : ((a : Int) : ℚ) ≤ nearestInt a := le_nearestInt hfull hq (le_refl _)
  exact Int.cast_injective (le_antisymm hle hge)

/-! ## Comparing -/

/-- The integers that a number of a record can be. -/
def IsWord (a : Int) : Prop :=
  -2 ^ 63 ≤ a ∧ a < 2 ^ 64

theorem natAbs_lt_of_isWord {a : Int} (h : IsWord a) : a.natAbs < 2 ^ 64 := by
  obtain ⟨hlower, hupper⟩ := h
  omega

theorem beq_ofInt {a b : Int} (ha : a.natAbs < 2 ^ 64) (hb : b.natAbs < 2 ^ 64) :
    (Float.ofInt a == Float.ofInt b) = true ↔ nearestInt a = nearestInt b := by
  rw [beq_iff (value?_ofInt ha) (value?_ofInt hb), Int.cast_inj]

theorem nearestInt_of_le {a : Int} (h : a.natAbs ≤ 2 ^ 53) : nearestInt a = a := by
  rw [nearestInt, nearest_of_le h, Int.sign_mul_natAbs]

theorem le_nearest (h : 2 ^ 53 ≤ n) : 2 ^ 53 ≤ nearest n := by
  have hlog : 53 ≤ n.log2 := (Nat.le_log2 (by omega)).mpr h
  have hunit : 2 ^ 1 ≤ unit n := Nat.pow_le_pow_right (by decide) (by omega)
  calc 2 ^ 53 = 2 ^ 52 * 2 ^ 1 := by decide
    _ ≤ nearest n := Nat.mul_le_mul (roundHalfEven_unit_bounds h).1 hunit

theorem le_natAbs_nearestInt {a : Int} (h : 2 ^ 53 ≤ a.natAbs) :
    2 ^ 53 ≤ (nearestInt a).natAbs := by
  have hne : a ≠ 0 := by
    rintro rfl
    simp at h
  rw [nearestInt, Int.natAbs_mul, Int.natAbs_sign_of_ne_zero hne, Nat.one_mul, Int.natAbs_natCast]
  exact le_nearest h

/-- No two integers meet at a binary fraction of up to 53 bits. -/
theorem eq_of_nearestInt_eq {a b : Int} (ha : a.natAbs < 2 ^ 53)
    (h : nearestInt a = nearestInt b) : a = b := by
  rw [nearestInt_of_le (Nat.le_of_lt ha)] at h
  by_cases hb : b.natAbs < 2 ^ 53
  · rw [h, nearestInt_of_le (Nat.le_of_lt hb)]
  · have := le_natAbs_nearestInt (Nat.not_lt.mp hb)
    omega

end Guardrail.Decimal
