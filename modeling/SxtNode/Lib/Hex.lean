import Mathlib.Algebra.Group.Nat.Defs
import Mathlib.Data.List.Infix

/-!
# Hexadecimal text

The `hex` crate writes a byte as two lower-case digits, high half first, and reads a text two
digits at a time, accepting both cases. The crate reads the text's bytes. The reader here reads
its characters: a character outside ASCII is no digit, so both readers fail on the same texts.
Only whether a text decodes, and to which bytes, is kept; the crate's error kinds are not.
Reading back what was written gives the bytes (`decodeChars_encodeChars`). Before reading an
address, a text is trimmed of leading copies of a prefix, as `str::trim_start_matches` does; a
written text has no `0x` in front (`trimStartMatches_encode`).

Rust's `{:0w$X}` writes a number as `w` upper-case digits, most significant first, the front
padded with zeros (`upperFixed`); the digits determine the number below `16 ^ w`
(`mod_eq_of_upperFixed_eq`), and the digits of ten to fifteen are letters (`isDigit_upperDigit`).
-/

set_option autoImplicit false

namespace List

variable {α : Type} [DecidableEq α]

/-- `str::trim_start_matches` with a text pattern: while the text starts with the pattern, drop
it from the front. An empty pattern leaves the text as it is. -/
def trimStartMatches (l pat : List α) : List α :=
  if h : pat ≠ [] ∧ pat <+: l then
    -- the pattern is not empty, so each drop shortens the text
    have : l.length - pat.length < l.length := by
      have hlen := h.2.length_le
      have hpos := List.length_pos_of_ne_nil h.1
      omega
    trimStartMatches (l.drop pat.length) pat
  else l
termination_by l.length

theorem trimStartMatches_of_not_prefix {l pat : List α} (h : ¬pat <+: l) : l.trimStartMatches pat = l := by
  rw [trimStartMatches.eq_1, dif_neg (fun hp => h hp.2)]

end List

namespace Hex

/-- `HEX_CHARS_LOWER`. -/
def digits : List Char := ['0', '1', '2', '3', '4', '5', '6', '7', '8', '9', 'a', 'b', 'c', 'd', 'e', 'f']

/-- The digit of a value below sixteen. -/
def digit (n : ℕ) : Char := digits.getD n '0'

/-- The crate's `val`: the value of a digit, in either case. -/
def val (c : Char) : Option ℕ :=
  if '0' ≤ c ∧ c ≤ '9' then some (c.toNat - '0'.toNat)
  else if 'a' ≤ c ∧ c ≤ 'f' then some (c.toNat - 'a'.toNat + 10)
  else if 'A' ≤ c ∧ c ≤ 'F' then some (c.toNat - 'A'.toNat + 10)
  else none

/-- The digits of some bytes: the high half of each byte (`byte >> 4`), then its low half
(`byte & 0xf`). -/
def encodeChars : List UInt8 → List Char
  | [] => []
  | byte :: rest => digit (byte.toNat / 16) :: digit (byte.toNat % 16) :: encodeChars rest

/-- `hex::encode`. -/
def encode (bytes : List UInt8) : String := String.ofList (encodeChars bytes)

/-- Reading digits two at a time; an odd count or a character that is no digit reads nothing. -/
def decodeChars : List Char → Option (List UInt8)
  | [] => some []
  | [_] => none
  | hi :: lo :: rest => do
    let high ← val hi
    let low ← val lo
    let tail ← decodeChars rest
    pure (UInt8.ofNat (high * 16 + low) :: tail)

theorem val_digits : ∀ n ∈ List.range 16, val (digit n) = some n := by
  decide

theorem val_digit {n : ℕ} (h : n < 16) : val (digit n) = some n :=
  val_digits n (List.mem_range.mpr h)

theorem digit_mem_digits : ∀ n ∈ List.range 16, digit n ∈ digits := by
  decide

/-- A byte is its high half times sixteen plus its low half. -/
theorem halves_toNat (byte : UInt8) : UInt8.ofNat (byte.toNat / 16 * 16 + byte.toNat % 16) = byte := by
  rw [Nat.div_add_mod' byte.toNat 16, UInt8.ofNat_toNat]

theorem decodeChars_encodeChars (bytes : List UInt8) : decodeChars (encodeChars bytes) = some bytes := by
  induction bytes with
  | nil => rfl
  | cons byte rest ih =>
    have hbyte : byte.toNat < 256 := byte.toNat_lt
    have hhigh : val (digit (byte.toNat / 16)) = some (byte.toNat / 16) := val_digit (by omega)
    have hlow : val (digit (byte.toNat % 16)) = some (byte.toNat % 16) := val_digit (by omega)
    simp only [encodeChars, decodeChars, hhigh, hlow, ih, Option.bind_eq_bind, Option.bind_some, Option.pure_def,
      halves_toNat]

/-- Every character written is one of the sixteen lower-case digits. -/
theorem mem_digits_of_mem_encodeChars {bytes : List UInt8} {c : Char} (hc : c ∈ encodeChars bytes) :
    c ∈ digits := by
  induction bytes with
  | nil => simp [encodeChars] at hc
  | cons byte rest ih =>
    have hbyte : byte.toNat < 256 := byte.toNat_lt
    simp only [encodeChars, List.mem_cons] at hc
    rcases hc with rfl | rfl | hc
    · exact digit_mem_digits _ (List.mem_range.mpr (by omega))
    · exact digit_mem_digits _ (List.mem_range.mpr (by omega))
    · exact ih hc

/-- A written text does not start with `0x`, whose `x` is no digit. -/
theorem not_prefix_encodeChars (bytes : List UInt8) : ¬['0', 'x'] <+: encodeChars bytes := by
  intro hprefix
  have hx : 'x' ∈ encodeChars bytes := hprefix.subset (by simp)
  have hnot : 'x' ∉ digits := by decide
  exact hnot (mem_digits_of_mem_encodeChars hx)

theorem trimStartMatches_encode (bytes : List UInt8) :
    (encode bytes).toList.trimStartMatches ['0', 'x'] = encodeChars bytes := by
  rw [encode, String.toList_ofList]
  exact List.trimStartMatches_of_not_prefix (not_prefix_encodeChars bytes)

/-! ## Upper-case digits of a number -/

/-- The digits `{:X}` writes: `0` to `9`, then `A` to `F`. -/
def upperDigits : List Char := ['0', '1', '2', '3', '4', '5', '6', '7', '8', '9', 'A', 'B', 'C', 'D', 'E', 'F']

/-- The upper-case digit of a value below sixteen. -/
def upperDigit (n : ℕ) : Char := upperDigits.getD n '0'

/-- `{:0w$X}` of a number below `16 ^ w`: its `w` digits, most significant first, the front
padded with zeros. -/
def upperFixed : ℕ → ℕ → List Char
  | 0, _ => []
  | w + 1, n => upperDigit (n / 16 ^ w % 16) :: upperFixed w n

@[simp] theorem length_upperFixed (w n : ℕ) : (upperFixed w n).length = w := by
  induction w with
  | zero => rfl
  | succ w ih => simp [upperFixed, ih]

theorem upperDigit_mem_upperDigits : ∀ n ∈ List.range 16, upperDigit n ∈ upperDigits := by
  decide

/-- Every character written is one of the sixteen upper-case digits. -/
theorem mem_upperDigits_of_mem_upperFixed {w n : ℕ} {c : Char} (hc : c ∈ upperFixed w n) : c ∈ upperDigits := by
  induction w with
  | zero => simp [upperFixed] at hc
  | succ w ih =>
    rw [upperFixed, List.mem_cons] at hc
    rcases hc with rfl | hc
    · exact upperDigit_mem_upperDigits _ (List.mem_range.mpr (Nat.mod_lt _ (by omega)))
    · exact ih hc

/-- The upper-case digits are ASCII. -/
theorem val_le_of_mem_upperDigits {c : Char} (hc : c ∈ upperDigits) : c.val ≤ 127 := by
  have hascii : (upperDigits.all fun c => decide (c.val ≤ 127)) = true := by
    decide
  exact of_decide_eq_true (List.all_eq_true.mp hascii c hc)

theorem isDigit_upperDigit : ∀ n ∈ List.range 16, (upperDigit n).isDigit = decide (n < 10) := by
  decide

theorem upperDigit_inj : ∀ m ∈ List.range 16, ∀ n ∈ List.range 16, upperDigit m = upperDigit n → m = n := by
  decide

/-- The digits written determine the number's lowest `w` digits. -/
theorem mod_eq_of_upperFixed_eq {w m n : ℕ} (h : upperFixed w m = upperFixed w n) : m % 16 ^ w = n % 16 ^ w := by
  induction w with
  | zero => simp [Nat.mod_one]
  | succ w ih =>
    rw [upperFixed, upperFixed, List.cons.injEq] at h
    have hdigit := upperDigit_inj _ (List.mem_range.mpr (Nat.mod_lt _ (by omega)))
      _ (List.mem_range.mpr (Nat.mod_lt _ (by omega))) h.1
    rw [Nat.mod_pow_succ, Nat.mod_pow_succ, hdigit, ih h.2]

end Hex
