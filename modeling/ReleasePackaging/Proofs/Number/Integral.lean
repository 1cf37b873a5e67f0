import ReleasePackaging.Number.Binary64

/-!
# Whole numbers in floating point

A finite number is told by its sign, its significand and its exponent, and a value other than zero
has one of each. So two whole numbers that are equal as integers are equal as numbers.
-/
namespace ReleasePackaging.Number.Binary64

/-- The bits of a number are its sign, its biased exponent and its fraction. -/
theorem bits_toNat (x : Binary64) :
    x.bits.toNat = (if x.isNegative then 2 ^ 63 else 0) + x.biased * 2 ^ 52 + x.fraction := by
  have hbits := x.bits.toNat_lt
  unfold isNegative biased fraction
  split <;> simp_all <;> omega

theorem ext_parts {x y : Binary64} (hsign : x.isNegative = y.isNegative)
    (hbiased : x.biased = y.biased) (hfraction : x.fraction = y.fraction) : x = y := by
  have hbits : x.bits.toNat = y.bits.toNat := by
    rw [bits_toNat x, bits_toNat y, hsign, hbiased, hfraction]
  exact congrArg Binary64.mk (UInt64.toNat_inj.mp hbits)

theorem fraction_lt (x : Binary64) : x.fraction < 2 ^ 52 := Nat.mod_lt _ (by decide)

/-- Significand and exponent tell the biased exponent and the fraction. -/
theorem parts_of_scaled {x y : Binary64} {d : Nat} (hbelow : max x.biased 1 + d = max y.biased 1)
    (hscaled : x.significand = y.significand * 2 ^ d) :
    x.biased = y.biased ∧ x.fraction = y.fraction := by
  have hx := x.fraction_lt
  have hy := y.fraction_lt
  cases d with
  | zero =>
    unfold significand at hscaled
    split at hscaled <;> split at hscaled <;> omega
  | succ d =>
    -- A greater exponent belongs to a normal number, whose significand leaves no room for more.
    exfalso
    have hnormal : 2 ^ 52 ≤ y.significand := by
      unfold significand
      split <;> omega
    have hlarge : 2 ^ 53 ≤ y.significand * 2 ^ (d + 1) := by
      calc 2 ^ 53 = 2 ^ 52 * 2 ^ 1 := by decide
        _ ≤ y.significand * 2 ^ (d + 1) :=
          Nat.mul_le_mul hnormal (Nat.pow_le_pow_right (by decide) (by omega))
    have hsmall : x.significand < 2 ^ 53 := by
      unfold significand
      split <;> omega
    omega

/-- The sign of a number as a factor. -/
def unit (x : Binary64) : Int := if x.isNegative then -1 else 1

theorem natAbs_unit (x : Binary64) : x.unit.natAbs = 1 := by
  unfold unit
  split <;> rfl

theorem toRatio_eq (x : Binary64) :
    x.toRatio =
      (x.unit * ((x.significand * 2 ^ x.exponent.toNat : Nat) : Int), 2 ^ (-x.exponent).toNat) := by
  have hsigned : (if x.isNegative then -(x.significand : Int) else x.significand) =
      x.unit * x.significand := by
    unfold unit
    cases x.isNegative with
    | false => exact (Int.one_mul _).symm
    | true => exact (Int.neg_one_mul _).symm
  simp only [toRatio, hsigned]
  by_cases h : 0 ≤ x.exponent
  · have hden : (-x.exponent).toNat = 0 := by omega
    rw [if_pos h, hden, Int.mul_assoc]
    rfl
  · have hnum : x.exponent.toNat = 0 := by omega
    rw [if_neg h, hnum, Nat.pow_zero, Nat.mul_one]

/-- The integer part of a number is its sign and the quotient of the ratio that it is. -/
theorem truncate_eq (x : Binary64) :
    x.truncate =
      x.unit * ((x.significand * 2 ^ x.exponent.toNat / 2 ^ (-x.exponent).toNat : Nat) : Int) := by
  have hquotient (a b : Nat) : (a : Int).tdiv (b : Int) = ((a / b : Nat) : Int) := rfl
  unfold truncate
  simp only [toRatio_eq]
  cases hsign : x.isNegative
  · simp only [unit, hsign, Bool.false_eq_true, if_false, Int.one_mul, hquotient]
  · simp only [unit, hsign, if_true, Int.neg_mul, Int.one_mul, Int.neg_tdiv, hquotient]

/-- A whole number is its significand scaled by its exponent, told without negative exponents. -/
theorem natAbs_truncate {x : Binary64} (h : x.isIntegral = true) :
    x.truncate.natAbs * 2 ^ 1075 = x.significand * 2 ^ max x.biased 1 := by
  have hexp : x.exponent = (max x.biased 1 : Nat) - 1075 := rfl
  have hbound : x.biased < 2048 := Nat.mod_lt _ (by decide)
  simp only [isIntegral, Bool.and_eq_true, beq_iff_eq, toRatio_eq] at h
  have hdvd : 2 ^ (-x.exponent).toNat ∣ x.significand * 2 ^ x.exponent.toNat := by
    have hint := Int.natAbs_dvd_natAbs.mpr (Int.dvd_of_emod_eq_zero h.2)
    simpa [Int.natAbs_mul, natAbs_unit, Int.natAbs_pow] using hint
  have habs : x.truncate.natAbs =
      x.significand * 2 ^ x.exponent.toNat / 2 ^ (-x.exponent).toNat := by
    rw [truncate_eq, Int.natAbs_mul, natAbs_unit, Nat.one_mul, Int.natAbs_natCast]
  have hwhole : x.truncate.natAbs * 2 ^ (-x.exponent).toNat =
      x.significand * 2 ^ x.exponent.toNat := by
    rw [habs, Nat.div_mul_cancel hdvd]
  by_cases hpos : 1075 ≤ max x.biased 1
  · have hden : (-x.exponent).toNat = 0 := by omega
    have hnum : max x.biased 1 = x.exponent.toNat + 1075 := by omega
    rw [hden, Nat.pow_zero, Nat.mul_one] at hwhole
    rw [hwhole, hnum, Nat.pow_add, Nat.mul_assoc]
  · have hnum : x.exponent.toNat = 0 := by omega
    have hden : 1075 = (-x.exponent).toNat + max x.biased 1 := by omega
    rw [hnum, Nat.pow_zero, Nat.mul_one] at hwhole
    rw [hden, Nat.pow_add, ← Nat.mul_assoc, hwhole]

theorem isZero_of_significand {x : Binary64} (h : x.significand = 0) : x.isZero = true := by
  unfold significand at h
  unfold isZero
  split at h
  · next hbiased => simp [hbiased, h]
  · omega

theorem isNegative_iff {x : Binary64} (h : x.truncate ≠ 0) :
    x.isNegative = true ↔ x.truncate < 0 := by
  have habs := truncate_eq x
  generalize x.significand * 2 ^ x.exponent.toNat / 2 ^ (-x.exponent).toNat = magnitude at habs
  cases hsign : x.isNegative
  · simp only [unit, hsign, Bool.false_eq_true, if_false, Int.one_mul] at habs
    simp only [Bool.false_eq_true, false_iff]
    omega
  · simp only [unit, hsign, if_true, Int.neg_mul, Int.one_mul] at habs
    simp only [true_iff]
    omega

/-- Of two equal magnitudes, the exponents differ by the scale of the significands. -/
theorem parts_of_magnitude {x y : Binary64} (hle : max x.biased 1 ≤ max y.biased 1)
    (h : x.significand * 2 ^ max x.biased 1 = y.significand * 2 ^ max y.biased 1) :
    x.biased = y.biased ∧ x.fraction = y.fraction := by
  have hsplit := Nat.add_sub_of_le hle
  rw [← hsplit, Nat.add_comm, Nat.pow_add, ← Nat.mul_assoc] at h
  exact parts_of_scaled hsplit (Nat.eq_of_mul_eq_mul_right (Nat.two_pow_pos _) h)

/-- Two whole numbers that are equal as integers are the same number, or both are zero. -/
theorem eq_of_truncate_eq {x y : Binary64} (hx : x.isIntegral = true) (hy : y.isIntegral = true)
    (h : x.truncate = y.truncate) : x = y ∨ x.isZero = true ∧ y.isZero = true := by
  have hmagnitude : x.significand * 2 ^ max x.biased 1 = y.significand * 2 ^ max y.biased 1 := by
    rw [← natAbs_truncate hx, ← natAbs_truncate hy, h]
  by_cases hzero : x.truncate = 0
  · have hxzero : x.significand * 2 ^ max x.biased 1 = 0 :=
      (natAbs_truncate hx).symm.trans (Nat.mul_eq_zero.mpr (.inl (Int.natAbs_eq_zero.mpr hzero)))
    have hyzero := hmagnitude.symm.trans hxzero
    have hpow (n : Nat) : ¬ 2 ^ n = 0 := Nat.ne_of_gt (Nat.two_pow_pos n)
    exact .inr ⟨isZero_of_significand ((Nat.mul_eq_zero.mp hxzero).resolve_right (hpow _)),
      isZero_of_significand ((Nat.mul_eq_zero.mp hyzero).resolve_right (hpow _))⟩
  · have hsign : x.isNegative = y.isNegative := by
      rw [Bool.eq_iff_iff, isNegative_iff hzero, isNegative_iff (h ▸ hzero), h]
    rcases Nat.le_total (max x.biased 1) (max y.biased 1) with hle | hle
    · obtain ⟨hbiased, hfraction⟩ := parts_of_magnitude hle hmagnitude
      exact .inl (ext_parts hsign hbiased hfraction)
    · obtain ⟨hbiased, hfraction⟩ := parts_of_magnitude hle hmagnitude.symm
      exact .inl (ext_parts hsign hbiased.symm hfraction.symm)

end ReleasePackaging.Number.Binary64
