import Mathlib.Data.List.Range
import Mathlib.Algebra.Group.Nat.Defs

/-!
# Ranges of 64-bit integers

Rust's `a..b` over `i64` yields `a, a + 1, …` while below `b`, and nothing when `b ≤ a`. A range
`n as i64 .. n as i64 + m as i64` built from unsigned counts, with the casts and the sum wrapping
at `2 ^ 64`, holds exactly the integers `n, …, n + m - 1` while `n + m` stays below `2 ^ 63`;
past that bound its end has wrapped, and it never holds `m` values.
-/

set_option autoImplicit false

namespace Int64

/-- The values of Rust's `a..b`. -/
def rangeList (a b : Int64) : List Int64 :=
  if a < b then (List.range (b.toInt - a.toInt).toNat).map fun k => a + Int64.ofNat k else []

theorem length_rangeList (a b : Int64) : (rangeList a b).length = (b.toInt - a.toInt).toNat := by
  unfold rangeList
  split
  · simp
  · rename_i h
    -- an empty range: the end is not above the start
    have hle : b.toInt ≤ a.toInt := by
      rw [Int64.lt_iff_toInt_lt] at h
      omega
    simp only [List.length_nil]
    omega

/-- Without wrapping, the range from `n` of length `m` holds `n, …, n + m - 1`. -/
theorem rangeList_ofNat {n m : ℕ} (h : n + m < 2 ^ 63) :
    rangeList (Int64.ofNat n) (Int64.ofNat n + Int64.ofNat m) = (List.range m).map fun k => Int64.ofNat (n + k) := by
  have hn : (Int64.ofNat n).toInt = n := Int64.toInt_ofNat_of_lt (by omega)
  have hend : (Int64.ofNat n + Int64.ofNat m).toInt = n + m := by
    rw [← Int64.ofNat_add]
    exact_mod_cast Int64.toInt_ofNat_of_lt h
  unfold rangeList
  split
  · rename_i hlt
    rw [hend, hn, show ((n : ℤ) + m - n).toNat = m by omega]
    simp only [Int64.ofNat_add]
  · rename_i hlt
    -- the empty case is the one of no rows
    rw [Int64.lt_iff_toInt_lt, hend, hn] at hlt
    have hm : m = 0 := by omega
    subst hm
    rfl

/-- The integers of the range from `n` of length `m`, without wrapping. -/
theorem map_toInt_rangeList_ofNat {n m : ℕ} (h : n + m < 2 ^ 63) :
    (rangeList (Int64.ofNat n) (Int64.ofNat n + Int64.ofNat m)).map Int64.toInt =
      (List.range m).map fun k => ((n + k : ℕ) : ℤ) := by
  rw [rangeList_ofNat h, List.map_map]
  apply List.map_congr_left
  intro k hk
  have hk' : k < m := List.mem_range.mp hk
  exact Int64.toInt_ofNat_of_lt (by omega)

/-- A range from `n < 2 ^ 63` of length `m` ends below `2 ^ 63`: once the end wraps, the range
is shorter than asked. -/
theorem lt_of_length_rangeList_ofNat {n m : ℕ} (hn : n < 2 ^ 63)
    (h : (rangeList (Int64.ofNat n) (Int64.ofNat n + Int64.ofNat m)).length = m) : n + m < 2 ^ 63 := by
  rw [length_rangeList, Int64.toInt_ofNat_of_lt hn] at h
  have hend := Int64.toInt_lt (Int64.ofNat n + Int64.ofNat m)
  omega

end Int64
