import Mathlib.Algebra.Group.Nat.Defs

/-!
# Little-endian bytes

A number written as `n` bytes, least significant first, and the value of such bytes. Writing
keeps the number modulo `256 ^ n`, so reading back what was written gives the number whenever it
fits in the bytes.
-/

set_option autoImplicit false

namespace Nat

/-- The `n` little-endian bytes of `x`, which keep `x` modulo `256 ^ n`. -/
def toLeBytes : ℕ → ℕ → List UInt8
  | 0, _ => []
  | n + 1, x => UInt8.ofNat (x % 256) :: toLeBytes n (x / 256)

/-- The value of little-endian bytes. -/
def ofLeBytes : List UInt8 → ℕ
  | [] => 0
  | byte :: rest => byte.toNat + 256 * ofLeBytes rest

theorem length_toLeBytes (n x : ℕ) : (toLeBytes n x).length = n := by
  induction n generalizing x with
  | zero => rfl
  | succ n ih => simp [toLeBytes, ih]

theorem ofLeBytes_toLeBytes (n x : ℕ) : ofLeBytes (toLeBytes n x) = x % 256 ^ n := by
  induction n generalizing x with
  | zero => simp [toLeBytes, ofLeBytes, Nat.mod_one]
  | succ n ih =>
    -- the low byte, then the rest of the number shifted down by a byte
    have hlow : (UInt8.ofNat (x % 256)).toNat = x % 256 := by
      rw [UInt8.toNat_ofNat', Nat.mod_mod]
    rw [toLeBytes, ofLeBytes, hlow, ih, Nat.pow_succ', Nat.mod_mul]

end Nat
