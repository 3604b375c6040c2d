import Mathlib.Data.Nat.Basic

/-!
# Saturating machine arithmetic

`u64::saturating_add` and `u64::saturating_mul` give the exact result when it fits in 64 bits
and `u64::MAX` when it does not. Saturation only ever raises a result to the cap, so a
saturated sum is zero exactly when both terms are, and a saturated product exactly when one
factor is.
-/

set_option autoImplicit false

namespace UInt64

/-- `u64::MAX`. -/
def MAX : UInt64 := 18446744073709551615

/-- `u64::saturating_add`. -/
def saturatingAdd (a b : UInt64) : UInt64 :=
  if a.toNat + b.toNat < UInt64.size then a + b else MAX

/-- `u64::saturating_mul`. -/
def saturatingMul (a b : UInt64) : UInt64 :=
  if a.toNat * b.toNat < UInt64.size then a * b else MAX

theorem toNat_MAX : MAX.toNat = UInt64.size - 1 := rfl

theorem toNat_saturatingAdd (a b : UInt64) :
    (saturatingAdd a b).toNat =
      if a.toNat + b.toNat < UInt64.size then a.toNat + b.toNat else UInt64.size - 1 := by
  unfold saturatingAdd
  split
  · next hfits => rw [UInt64.toNat_add, Nat.mod_eq_of_lt hfits]
  · exact toNat_MAX

theorem toNat_saturatingMul (a b : UInt64) :
    (saturatingMul a b).toNat =
      if a.toNat * b.toNat < UInt64.size then a.toNat * b.toNat else UInt64.size - 1 := by
  unfold saturatingMul
  split
  · next hfits => rw [UInt64.toNat_mul, Nat.mod_eq_of_lt hfits]
  · exact toNat_MAX

theorem saturatingAdd_eq_zero_iff {a b : UInt64} : saturatingAdd a b = 0 ↔ a = 0 ∧ b = 0 := by
  have hsize : UInt64.size = 18446744073709551616 := rfl
  rw [← UInt64.toNat_inj, ← UInt64.toNat_inj (a := a), ← UInt64.toNat_inj (a := b), toNat_saturatingAdd,
    UInt64.toNat_zero]
  split <;> omega

theorem saturatingMul_eq_zero_iff {a b : UInt64} : saturatingMul a b = 0 ↔ a = 0 ∨ b = 0 := by
  have hsize : UInt64.size = 18446744073709551616 := rfl
  rw [← UInt64.toNat_inj, ← UInt64.toNat_inj (a := a), ← UInt64.toNat_inj (a := b), toNat_saturatingMul,
    UInt64.toNat_zero]
  split
  · exact Nat.mul_eq_zero
  · next hover =>
    -- a product past the cap has no zero factor
    constructor
    · omega
    · rintro (h0 | h0) <;> simp [h0] at hover

end UInt64
