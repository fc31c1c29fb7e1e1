import Guardrail.Proofs.Decimal.Normal

/-!
# Whole numbers among binary fractions

An integer whose value is that of a `Float` is read as that very `Float`, be it below `2 ^ 53` or
above. Only the sign of a zero is lost.
-/

namespace Guardrail.Decimal

open Float.Model Float.Model.UnpackedFloat

theorem twoTo_eq (n : Nat) : twoTo n = 2 ^ n := rfl

theorem eq_of_toNat_toBits {x y : Float} (h : x.toBits.toNat = y.toBits.toNat) : x = y := by
  obtain ⟨⟨bits, _⟩⟩ := x
  obtain ⟨⟨bits', _⟩⟩ := y
  obtain rfl : bits = bits' := UInt64.toNat_inj.mp h
  rfl

theorem Binary.whole?_eq_some {b : Binary} {n : Int} (h : b.whole? = some n) :
    n.natAbs * 2 ^ (-b.exponent).toNat = b.mantissa * 2 ^ b.exponent.toNat ∧
      n = if b.negative then -(n.natAbs : Int) else n.natAbs := by
  have hparts : b.magnitude = (b.mantissa * 2 ^ b.exponent.toNat, 2 ^ (-b.exponent).toNat) := by
    by_cases he : 0 ≤ b.exponent
    · rw [magnitude, if_pos he, Int.toNat_of_nonpos (by omega : -b.exponent ≤ 0), Nat.pow_zero]
      rfl
    · rw [magnitude, if_neg he, Int.toNat_of_nonpos (by omega : b.exponent ≤ 0), Nat.pow_zero,
        Nat.mul_one]
      rfl
  rw [whole?, hparts] at h
  dsimp only at h
  split at h
  · rename_i hrest
    obtain rfl := Option.some.inj h
    have hquotient := Nat.div_mul_cancel (Nat.dvd_of_mod_eq_zero hrest)
    split
    · rw [Int.natAbs_neg, Int.natAbs_natCast]
      exact ⟨hquotient, rfl⟩
    · rw [Int.natAbs_natCast]
      exact ⟨hquotient, rfl⟩
  · simp at h

/-- The sign of the number. -/
def Binary.sign (b : Binary) : Sign :=
  if b.negative then .negative else .positive

theorem Binary.toNat_sign {b : Binary} {bit : Nat} (hbit : bit < 2)
    (h : b.negative = decide (bit = 1)) : b.sign.toBitVec.toNat = bit := by
  rw [sign, h]
  by_cases hone : bit = 1
  · simp [Sign.toBitVec, hone]
  · simp [Sign.toBitVec, hone]
    omega

/-- What is not normal is too small for it, and stands in the bits as it is. -/
theorem Binary.isNormal_or_lt {x : Float} {b : Binary} (h : ofFloat? x = some b) :
    (∃ hnormal : IsNormal b.mantissa b.exponent, x = hnormal.toFloat b.sign) ∨
      (b.mantissa < 2 ^ 52 ∧ b.exponent = -1074 ∧
        x.toBits.toNat = b.sign.toBitVec.toNat * 2 ^ 63 + b.mantissa) := by
  have hbits := x.toBits.toNat_lt
  have hbit : x.toBits.toNat / twoTo 63 < 2 := by
    rw [twoTo_eq]
    omega
  unfold ofFloat? at h
  dsimp only at h
  split at h
  · cases h
  · rename_i hspecial
    split at h
    · rename_i hzero
      cases h
      refine .inr ⟨Nat.mod_lt _ (by decide), rfl, ?_⟩
      rw [toNat_sign hbit rfl]
      simp only [twoTo_eq] at hzero ⊢
      omega
    · rename_i hzero
      cases h
      have hnormal : IsNormal (x.toBits.toNat % twoTo 52 + twoTo 52)
          ((x.toBits.toNat / twoTo 52 % twoTo 11 : Nat) - 1075) := by
        simp only [twoTo_eq, specialExponent] at hspecial hzero ⊢
        exact ⟨by omega, by omega, by omega, by omega⟩
      refine .inl ⟨hnormal, eq_of_toNat_toBits ?_⟩
      rw [hnormal.toNat_toBits, toNat_sign hbit rfl]
      simp only [twoTo_eq] at hzero ⊢
      omega

/-- An integer is read as the `Float` that it is the value of. -/
theorem ofInt_of_whole? {x : Float} {n : Int} (h : (Binary.ofFloat? x).bind Binary.whole? = some n)
    (hne : n ≠ 0) : Float.ofInt n = x := by
  obtain ⟨b, hb, hn⟩ := Option.bind_eq_some_iff.mp h
  obtain ⟨hvalue, hsign⟩ := Binary.whole?_eq_some hn
  rcases Binary.isNormal_or_lt hb with ⟨hnormal, rfl⟩ | ⟨hlt, he, -⟩
  · rw [Binary.sign]
    cases n with
    | ofNat n =>
        have hpositive : b.negative ≠ true := by
          intro hnegative
          rw [if_pos hnegative, Int.ofNat_eq_natCast, Int.natAbs_natCast] at hsign
          rw [Int.ofNat_eq_natCast] at hne
          omega
        rw [if_neg hpositive]
        exact hnormal.ofNat_eq hvalue
    | negSucc n =>
        have hnegative : b.negative = true := by
          refine Decidable.byContradiction fun hpositive => ?_
          rw [if_neg hpositive] at hsign
          omega
        rw [if_pos hnegative, ← hnormal.neg_toFloat, ← hnormal.ofNat_eq hvalue]
        rfl
  · -- the least whole number is greater than any number that is not normal
    have hexponent : b.exponent.toNat = 0 := by omega
    have hle : 2 ^ 52 ≤ n.natAbs * 2 ^ (-b.exponent).toNat :=
      Nat.le_trans (Nat.pow_le_pow_right (by decide) (by omega))
        (Nat.le_mul_of_pos_left _ (Int.natAbs_pos.mpr hne))
    rw [hvalue, hexponent, Nat.pow_zero, Nat.mul_one] at hle
    omega

theorem eq_zero_of_whole? {x : Float} (h : (Binary.ofFloat? x).bind Binary.whole? = some 0) :
    (x == 0) = true := by
  obtain ⟨b, hb, hn⟩ := Option.bind_eq_some_iff.mp h
  obtain ⟨hvalue, -⟩ := Binary.whole?_eq_some hn
  have hmantissa : b.mantissa = 0 := by
    rw [Int.natAbs_zero, Nat.zero_mul, eq_comm, Nat.mul_eq_zero] at hvalue
    exact hvalue.resolve_right (Nat.ne_of_gt (Nat.two_pow_pos _))
  rcases Binary.isNormal_or_lt hb with ⟨hnormal, -⟩ | ⟨-, -, hbits⟩
  · have := hnormal.lower
    omega
  · rw [hmantissa, Nat.add_zero] at hbits
    cases hs : b.sign with
    | positive =>
        rw [hs] at hbits
        obtain rfl : x = 0 := eq_of_toNat_toBits hbits
        rfl
    | negative =>
        rw [hs] at hbits
        obtain rfl : x = -0 := eq_of_toNat_toBits hbits
        rfl

/-- The `Float`, where it is zero without its sign. -/
def unsignZero (x : Float) : Float :=
  if x == 0 then 0 else x

theorem unsignZero_ofInt {x : Float} {n : Int}
    (h : (Binary.ofFloat? x).bind Binary.whole? = some n) :
    unsignZero (Float.ofInt n) = unsignZero x := by
  by_cases hn : n = 0
  · subst hn
    rw [unsignZero, unsignZero, if_pos (eq_zero_of_whole? h)]
    rfl
  · rw [ofInt_of_whole? h hn]

end Guardrail.Decimal
