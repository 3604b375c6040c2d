import Mathlib.Data.List.Basic

/-!
# Byte codecs and reversible hashers

A codec writes a value as bytes and reads a value back from the front of a byte string,
handing back the bytes after it. It is lawful when reading what it wrote returns the value and
leaves whatever followed untouched; that self-delimiting form is what lets codecs be chained,
so that a pair is written as its two parts and read back part by part (`Codec.Lawful.prod`).

A reversible hasher puts a digest in front of data in a way that can be undone: its `reverse`
strips exactly what `hash` put there, whatever bytes follow. Hashers that keep the data after a
digest of fixed width are reversible, and so is the identity.
-/

set_option autoImplicit false

/-- A codec of values of `α` as bytes; decoding reads one value from the front. -/
structure Codec (α : Type) where
  encode : α → List UInt8
  decode : List UInt8 → Except Unit (α × List UInt8)

namespace Codec

variable {α β : Type}

/-- Decoding what was encoded, followed by any bytes, returns the value and those bytes. -/
def Lawful (c : Codec α) : Prop :=
  ∀ a rest, c.decode (c.encode a ++ rest) = .ok (a, rest)

/-- The codec of the unit value: no bytes. -/
def unit : Codec Unit := ⟨fun _ => [], fun bytes => .ok ((), bytes)⟩

/-- A single byte. -/
def byte : Codec UInt8 where
  encode b := [b]
  decode
    | b :: rest => .ok (b, rest)
    | [] => .error ()

/-- A pair as its two parts, one after the other. -/
def prod (ca : Codec α) (cb : Codec β) : Codec (α × β) where
  encode p := ca.encode p.1 ++ cb.encode p.2
  decode bytes := do
    let (a, bytes) ← ca.decode bytes
    let (b, bytes) ← cb.decode bytes
    pure ((a, b), bytes)

theorem lawful_unit : unit.Lawful := fun _ _ => rfl

theorem lawful_byte : byte.Lawful := fun _ _ => rfl

theorem Lawful.prod {ca : Codec α} {cb : Codec β} (ha : ca.Lawful) (hb : cb.Lawful) : (ca.prod cb).Lawful := by
  rintro ⟨a, b⟩ rest
  -- the first part is read off, then the second from what follows it
  simp only [Codec.prod, bind, Except.bind, List.append_assoc, ha a, hb b rest]
  rfl

/-- Encoding is injective: the decoding tells values apart. -/
theorem Lawful.encode_injective {c : Codec α} (h : c.Lawful) : Function.Injective c.encode := by
  intro a a' heq
  have h₁ := h a []
  rw [heq, h a' []] at h₁
  cases h₁
  rfl

end Codec

/-- A hasher whose digest can be stripped again: `reverse` undoes `hash` in front of any
bytes. -/
structure ReversibleHasher where
  hash : List UInt8 → List UInt8
  reverse : List UInt8 → List UInt8
  reverse_hash_append : ∀ x rest, reverse (hash x ++ rest) = x ++ rest

namespace ReversibleHasher

/-- The data itself. -/
def identity : ReversibleHasher := ⟨id, id, fun _ _ => rfl⟩

/-- A digest of `n` bytes followed by the data; reversing drops the first `n` bytes, and yields
nothing from fewer. -/
def concat (n : ℕ) (digest : List UInt8 → Vector UInt8 n) : ReversibleHasher where
  hash x := (digest x).toList ++ x
  reverse x := if x.length < n then [] else x.drop n
  reverse_hash_append x rest := by
    have hlen : (digest x).toList.length = n := Vector.length_toList
    simp only [List.append_assoc, List.length_append, hlen]
    rw [if_neg (by omega), List.drop_left' hlen]

@[simp] theorem concat_hash (n : ℕ) (digest : List UInt8 → Vector UInt8 n) (x : List UInt8) :
    (concat n digest).hash x = (digest x).toList ++ x := rfl

end ReversibleHasher

/-- `<[T]>::strip_prefix`: the bytes after `pre`, if they start with it. -/
def stripPrefix {α : Type} [BEq α] (pre l : List α) : Option (List α) :=
  if pre.isPrefixOf l then some (l.drop pre.length) else none

theorem stripPrefix_append {α : Type} [BEq α] [LawfulBEq α] (pre rest : List α) :
    stripPrefix pre (pre ++ rest) = some rest := by
  rw [stripPrefix, if_pos (List.isPrefixOf_iff_prefix.mpr (List.prefix_append pre rest)),
    List.drop_left]
