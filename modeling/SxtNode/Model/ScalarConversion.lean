import SxtNode.Model.CommitmentSql
import SxtNode.Lib.LeBytes
import Mathlib.Data.ZMod.Basic

/-!
# Decimals into the scalar field

A decimal's value is a `U256` read as a two's-complement number (`u256_to_scalar`): the sign
test compares it with `U256::MAX / 2`, a negative value's absolute value is
`U256::MAX - value + 1`, and an absolute value above the field's `MAX_SIGNED` is refused. The
absolute value's limbs go into the field, which reduces them modulo its modulus, and the sign is
put back by negating there.

The `U256` arithmetic of `primitive_types` panics on overflow where `BitVec` wraps; the only sum
that could overflow, `U256::MAX - value + 1`, is taken for a negative value, which is not zero,
so the two agree.

arrow's `i256` is kept as its 256 two's-complement bits, whose value is `toInt`; it passes to a
`U256` and back through 32 little-endian bytes.
-/

set_option autoImplicit false

namespace SxtNode

/-- A proof-of-sql `Scalar` field, by its modulus, with the limbs of its `MAX_SIGNED`
(`S::MAX_SIGNED.into()`), which stand for `(p - 1) / 2`. -/
structure ScalarField where
  modulus : ℕ
  maxSigned : BitVec 256
  maxSigned_toNat : maxSigned.toNat = (modulus - 1) / 2

/-- The field of a modulus below `2 ^ 256`, with the limbs of `(p - 1) / 2` as `MAX_SIGNED`. -/
def ScalarField.ofModulus (p : ℕ) (hp : p < 2 ^ 256) : ScalarField where
  modulus := p
  maxSigned := BitVec.ofNat 256 ((p - 1) / 2)
  maxSigned_toNat := by
    rw [BitVec.toNat_ofNat]
    exact Nat.mod_eq_of_lt (by omega)

/-- The order of the scalar field of BLS12-381. -/
def bls12381Modulus : ℕ := 52435875175126190479447740508185965837690552500527637822603658699938581184513

/-- The order of the scalar field of BN254. -/
def bn254Modulus : ℕ := 21888242871839275222246405745257275088548364400416034343698204186575808495617

theorem bls12381Modulus_lt : bls12381Modulus < 2 ^ 256 := by
  decide

theorem bn254Modulus_lt : bn254Modulus < 2 ^ 256 := by
  decide

/-- `DoryScalar`. -/
def doryScalar : ScalarField := ScalarField.ofModulus bls12381Modulus bls12381Modulus_lt

/-- `BNScalar`. -/
def bnScalar : ScalarField := ScalarField.ofModulus bn254Modulus bn254Modulus_lt

/-- `C::Scalar` of each scheme's commitment: `BNScalar` for HyperKZG, `DoryScalar` for Dory. -/
def CommitmentScheme.scalarField : CommitmentScheme → ScalarField
  | .HyperKzg => bnScalar
  | .DynamicDory => doryScalar

/-- `U256::MAX`. -/
def U256.MAX : BitVec 256 := BitVec.allOnes 256

/-- `u256_to_scalar::<S>`. -/
def u256ToScalar (S : ScalarField) (value : BitVec 256) : Except OutOfScalarBounds (ZMod S.modulus) :=
  let isNegative := decide (value > U256.MAX / 2)
  let absValue := if isNegative then U256.MAX - value + 1 else value
  if absValue > S.maxSigned then .error ⟨⟩
  else
    -- the limbs into the field, reduced modulo its modulus
    let scalar : ZMod S.modulus := absValue.toNat
    .ok (if isNegative then -scalar else scalar)

/-- `U256::from_little_endian` of 32 bytes. -/
def U256.fromLittleEndian (bytes : List UInt8) : BitVec 256 := BitVec.ofNat 256 (Nat.ofLeBytes bytes)

/-- `U256::to_little_endian`. -/
def U256.toLittleEndian (value : BitVec 256) : List UInt8 := Nat.toLeBytes 32 value.toNat

/-- `i256::to_le_bytes`. -/
def I256.toLeBytes (value : BitVec 256) : List UInt8 := Nat.toLeBytes 32 value.toNat

/-- `i256::from_le_bytes`. -/
def I256.fromLeBytes (bytes : List UInt8) : BitVec 256 := BitVec.ofNat 256 (Nat.ofLeBytes bytes)

/-- `arrow_i256_to_u256`. -/
def arrowI256ToU256 (value : BitVec 256) : BitVec 256 := U256.fromLittleEndian (I256.toLeBytes value)

/-- `u256_to_arrow_i256`. -/
def u256ToArrowI256 (value : BitVec 256) : BitVec 256 := I256.fromLeBytes (U256.toLittleEndian value)

end SxtNode
