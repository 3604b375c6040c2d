import SxtNode.Model.ScalarConversion
import SxtNode.Lib.SignedWord

/-!
# What a decimal commits to

`u256_to_scalar` accepts exactly the words whose two's-complement value `x` has `|x|` at most
`(p - 1) / 2` and gives `x` modulo `p` (`u256ToScalar_eq`). The accepted values lie in a window
narrower than `p`, so two words that convert to one scalar are the same word. An arrow `i256`
reaches the conversion unchanged: its bytes read back as a `U256` are its own bits, and written
back as an `i256` they are the `i256` again.

With the environment's scalar-bounds test taken to be this conversion, a decimal column commits
exactly when each of its entries is in the window of the scheme's field.
-/

set_option autoImplicit false

namespace SxtNode

/-! ## The conversion -/

/-- The sign test of `u256_to_scalar`. -/
theorem isNegative_iff (value : BitVec 256) : decide (value > U256.MAX / 2) = true ↔ value.toInt < 0 := by
  rw [decide_eq_true_iff, gt_iff_lt]
  exact BitVec.allOnes_div_two_lt_iff (by decide) value

/-- The word `u256_to_scalar` bounds and converts is the absolute value. -/
theorem toNat_absValue (value : BitVec 256) :
    (if decide (value > U256.MAX / 2) = true then U256.MAX - value + 1 else value).toNat = value.toInt.natAbs := by
  split
  · next hneg => exact BitVec.toNat_allOnes_sub_add_one value ((isNegative_iff value).mp hneg)
  · next hnonneg =>
    have hsign : 0 ≤ value.toInt := not_lt.mp (fun hlt => hnonneg ((isNegative_iff value).mpr hlt))
    exact BitVec.toNat_eq_natAbs_of_nonneg value hsign

/-- `u256_to_scalar` gives the value modulo `p` when its absolute value is at most
`(p - 1) / 2`, and refuses it otherwise. -/
theorem u256ToScalar_eq (S : ScalarField) (value : BitVec 256) :
    u256ToScalar S value =
      if value.toInt.natAbs ≤ (S.modulus - 1) / 2 then .ok (value.toInt : ZMod S.modulus) else .error ⟨⟩ := by
  unfold u256ToScalar
  dsimp only
  set absValue := if decide (value > U256.MAX / 2) = true then U256.MAX - value + 1 else value
  have habs : absValue.toNat = value.toInt.natAbs := toNat_absValue value
  -- the bound is tested on the absolute value, against the limbs of `(p - 1) / 2`
  have hgt : absValue > S.maxSigned ↔ (S.modulus - 1) / 2 < value.toInt.natAbs := by
    rw [gt_iff_lt, BitVec.lt_def, habs, S.maxSigned_toNat]
  by_cases hin : value.toInt.natAbs ≤ (S.modulus - 1) / 2
  · rw [if_neg (fun h => absurd (hgt.mp h) (by omega)), if_pos hin, habs, ZMod.intCast_eq_sign_natAbs]
    -- the sign is put back in the field
    by_cases hneg : value.toInt < 0
    · rw [if_pos ((isNegative_iff value).mpr hneg), if_pos hneg]
    · rw [if_neg (fun h => hneg ((isNegative_iff value).mp h)), if_neg hneg]
  · rw [if_pos (hgt.mpr (by omega)), if_neg hin]

example : u256ToScalar bnScalar U256.MAX = .ok (-1) := by decide

example : u256ToScalar doryScalar (U256.MAX / 2) = .error ⟨⟩ := by decide

/-- Where it succeeds, `u256_to_scalar` tells words apart. -/
theorem u256ToScalar_injOn (S : ScalarField) {v w : BitVec 256} {r : ZMod S.modulus}
    (hv : u256ToScalar S v = .ok r) (hw : u256ToScalar S w = .ok r) : v = w := by
  rw [u256ToScalar_eq] at hv hw
  split at hv
  · next hvin =>
    split at hw
    · next hwin =>
      -- one residue of two values in the window
      have hsame : (v.toInt : ZMod S.modulus) = w.toInt := (Except.ok.inj hv).trans (Except.ok.inj hw).symm
      exact BitVec.toInt_inj.mp ((ZMod.intCast_eq_intCast_iff_of_natAbs_le hvin hwin).mp hsame)
    · cases hw
  · cases hv

/-! ## arrow's `i256` -/

/-- 32 little-endian bytes of a word read back give the word. -/
theorem ofNat_ofLeBytes_toLeBytes (value : BitVec 256) :
    BitVec.ofNat 256 (Nat.ofLeBytes (Nat.toLeBytes 32 value.toNat)) = value := by
  have hbytes : (256 : ℕ) ^ 32 = 2 ^ 256 := by decide
  rw [Nat.ofLeBytes_toLeBytes, hbytes, Nat.mod_eq_of_lt value.isLt, BitVec.ofNat_toNat, BitVec.setWidth_eq]

/-- `arrow_i256_to_u256` keeps the bits. -/
theorem arrowI256ToU256_eq (value : BitVec 256) : arrowI256ToU256 value = value :=
  ofNat_ofLeBytes_toLeBytes value

/-- `u256_to_arrow_i256` keeps the bits. -/
theorem u256ToArrowI256_eq (value : BitVec 256) : u256ToArrowI256 value = value :=
  ofNat_ofLeBytes_toLeBytes value

/-- For every scalar field, `DoryScalar` and `BNScalar` among them: `u256_to_scalar` is the value modulo `p` inside the window of absolute value
`(p - 1) / 2` and an error outside it, it tells words apart where it succeeds, an arrow `i256`
converts to its own value exactly when that value is in the window, and `u256_to_arrow_i256`
undoes `arrow_i256_to_u256`. -/
theorem u256ToScalar_signed_window (S : ScalarField) :
    (∀ value : BitVec 256, u256ToScalar S value =
      if value.toInt.natAbs ≤ (S.modulus - 1) / 2 then .ok (value.toInt : ZMod S.modulus) else .error ⟨⟩) ∧
    (∀ (v w : BitVec 256) (r : ZMod S.modulus), u256ToScalar S v = .ok r → u256ToScalar S w = .ok r → v = w) ∧
    (∀ y : BitVec 256, u256ToScalar S (arrowI256ToU256 y) = .ok (y.toInt : ZMod S.modulus) ↔
      y.toInt.natAbs ≤ (S.modulus - 1) / 2) ∧
    (∀ y : BitVec 256, u256ToArrowI256 (arrowI256ToU256 y) = y) := by
  refine ⟨u256ToScalar_eq S, fun v w r hv hw => u256ToScalar_injOn S hv hw, fun y => ?_, fun y => ?_⟩
  · rw [arrowI256ToU256_eq, u256ToScalar_eq]
    split
    · next hin => exact iff_of_true rfl hin
    · next hout => exact iff_of_false (fun h => by cases h) hout
  · rw [arrowI256ToU256_eq, u256ToArrowI256_eq]

/-! ## Decimal columns -/

/-- The environment's scalar-bounds test is `u256_to_scalar` in the scheme's field. -/
def PosqlEnv.ScalarBoundsLawful {C : Type} (env : PosqlEnv C) : Prop :=
  ∀ scheme value, env.inScalarBounds scheme value = (u256ToScalar scheme.scalarField value).isOk

/-- A lawful scalar-bounds test accepts the words in the window of the scheme's field. -/
theorem inScalarBounds_iff {C : Type} {env : PosqlEnv C} (h : env.ScalarBoundsLawful) (scheme : CommitmentScheme)
    (value : BitVec 256) :
    env.inScalarBounds scheme value = true ↔ value.toInt.natAbs ≤ (scheme.scalarField.modulus - 1) / 2 := by
  rw [h, u256ToScalar_eq]
  split
  · next hin => exact iff_of_true rfl hin
  · next hout => exact iff_of_false (fun hok => by cases hok) hout

/-- Under a lawful test, a decimal column commits exactly when each entry is in the window of the
scheme's field. -/
theorem tryToCommittableColumn_decimal75_isOk {C : Type} {env : PosqlEnv C} (h : env.ScalarBoundsLawful)
    (scheme : CommitmentScheme) (precision : Precision) (scale : Int8) (values : List (BitVec 256)) :
    ((OnChainColumn.Decimal75 precision scale values).tryToCommittableColumn (env.inScalarBounds scheme)).isOk ↔
      ∀ value ∈ values, value.toInt.natAbs ≤ (scheme.scalarField.modulus - 1) / 2 := by
  simp only [OnChainColumn.tryToCommittableColumn]
  split
  · next hall =>
    rw [List.all_eq_true] at hall
    exact iff_of_true rfl fun value hv => (inScalarBounds_iff h scheme value).mp (hall value hv)
  · next hnot =>
    rw [List.all_eq_true] at hnot
    refine iff_of_false (fun hok => by cases hok) fun hwin => hnot fun value hv => ?_
    exact (inScalarBounds_iff h scheme value).mpr (hwin value hv)

/-- The environment whose scalar-bounds test is `u256_to_scalar` in each scheme's field. -/
def scalarFieldEnv : PosqlEnv MetaCommitment :=
  PosqlEnv.metadata (fun scheme value => (u256ToScalar scheme.scalarField value).isOk) (fun _ => 0)
    (fun _ _ => .error ())

end SxtNode
