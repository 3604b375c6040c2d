import Mathlib.Data.ZMod.Basic

/-!
# Signed words and their residues

A `w`-bit word read as a two's-complement number is negative exactly when, read as unsigned, it
is above `allOnes / 2`, the largest nonnegative value; its absolute value is then
`allOnes - x + 1`. Integers of absolute value at most `(p - 1) / 2` lie in a window narrower than
`p`, so their residues modulo `p` tell them apart.
-/

set_option autoImplicit false

namespace BitVec

variable {w : ℕ}

/-- Half the modulus, for a word of at least one bit. -/
theorem two_pow_eq_two_mul (hw : 1 ≤ w) : 2 ^ w = 2 * 2 ^ (w - 1) := by
  obtain ⟨k, rfl⟩ : ∃ k, w = k + 1 := ⟨w - 1, by omega⟩
  rw [Nat.add_sub_cancel, Nat.pow_succ']

/-- `allOnes / 2` is the largest nonnegative value, `2 ^ (w - 1) - 1`. -/
theorem toNat_allOnes_div_two (hw : 2 ≤ w) : (allOnes w / 2#w).toNat = 2 ^ (w - 1) - 1 := by
  have hhalf := two_pow_eq_two_mul (w := w) (by omega)
  have htwo : (2#w).toNat = 2 := by
    rw [toNat_ofNat]
    apply Nat.mod_eq_of_lt
    calc 2 < 2 ^ 2 := by decide
      _ ≤ 2 ^ w := Nat.pow_le_pow_right (by decide) hw
  rw [toNat_udiv, toNat_allOnes, htwo]
  have hpos : 1 ≤ 2 ^ (w - 1) := Nat.one_le_two_pow
  omega

/-- The sign test: above `allOnes / 2` exactly when the two's-complement value is negative. -/
theorem allOnes_div_two_lt_iff (hw : 2 ≤ w) (x : BitVec w) : allOnes w / 2#w < x ↔ x.toInt < 0 := by
  have hhalf := two_pow_eq_two_mul (w := w) (by omega)
  have hlt := x.isLt
  rw [lt_def, toNat_allOnes_div_two hw, toInt_eq_toNat_cond]
  have hpos : 1 ≤ 2 ^ (w - 1) := Nat.one_le_two_pow
  split <;> omega

/-- A word whose value is not negative is its own absolute value. -/
theorem toNat_eq_natAbs_of_nonneg (x : BitVec w) (h : 0 ≤ x.toInt) : x.toNat = x.toInt.natAbs := by
  have hcond := toInt_eq_toNat_cond x
  split at hcond <;> omega

/-- The negation `allOnes - x + 1` of a negative word is its absolute value. -/
theorem toNat_allOnes_sub_add_one (x : BitVec w) (h : x.toInt < 0) :
    (allOnes w - x + 1#w).toNat = x.toInt.natAbs := by
  have hlt := x.isLt
  -- a negative word is at least half the modulus, so neither step wraps
  have hhigh : 2 ^ w ≤ 2 * x.toNat := by
    rw [toInt_eq_toNat_cond] at h
    split at h <;> omega
  have hle : x ≤ allOnes w := by
    rw [le_def, toNat_allOnes]
    omega
  have hw : 0 < w := by
    rcases Nat.eq_zero_or_pos w with rfl | hpos
    · simp at hlt
      omega
    · exact hpos
  have hsub : (allOnes w - x).toNat = 2 ^ w - 1 - x.toNat := by
    rw [toNat_sub_of_le hle, toNat_allOnes]
  have hadd : (allOnes w - x + 1#w).toNat = 2 ^ w - x.toNat := by
    rw [toNat_add_of_lt (by rw [hsub, toNat_one hw]; omega), hsub, toNat_one hw]
    omega
  rw [hadd, toInt_eq_toNat_cond]
  split <;> omega

end BitVec

namespace ZMod

variable {p : ℕ}

/-- The residue of an integer from its sign and its absolute value. -/
theorem intCast_eq_sign_natAbs (x : ℤ) :
    (x : ZMod p) = if x < 0 then -((x.natAbs : ℕ) : ZMod p) else ((x.natAbs : ℕ) : ZMod p) := by
  split
  · next hneg =>
    have habs : ((x.natAbs : ℕ) : ℤ) = -x := Int.ofNat_natAbs_of_nonpos hneg.le
    rw [← Int.cast_natCast, habs, Int.cast_neg, neg_neg]
  · next hnonneg =>
    have habs : ((x.natAbs : ℕ) : ℤ) = x := Int.natAbs_of_nonneg (not_lt.mp hnonneg)
    rw [← Int.cast_natCast, habs]

/-- Integers of absolute value at most `(p - 1) / 2` with one residue modulo `p` are equal. -/
theorem intCast_eq_intCast_iff_of_natAbs_le {x y : ℤ} (hx : x.natAbs ≤ (p - 1) / 2)
    (hy : y.natAbs ≤ (p - 1) / 2) : (x : ZMod p) = (y : ZMod p) ↔ x = y := by
  constructor
  · intro heq
    rcases Nat.eq_zero_or_pos p with rfl | hp
    · -- modulo zero the window holds zero alone
      omega
    · have hdvd : (p : ℤ) ∣ y - x := (ZMod.intCast_eq_intCast_iff_dvd_sub x y p).mp heq
      -- the difference is below `p` in absolute value
      have habs : |y - x| < p := by
        rw [abs_lt]
        constructor <;> omega
      have hzero := Int.eq_zero_of_abs_lt_dvd hdvd habs
      omega
  · rintro rfl
    rfl

end ZMod
