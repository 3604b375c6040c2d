import Mathlib.Data.Finset.Max
import Mathlib.Data.Finset.Card

/-!
# Bounded collections

A list and a finite set whose size is bounded by a constant of their type. The bound is a
field of the structure, so a value past it cannot be built. The fallible insertions
(`BoundedVec.tryPush`, `BoundedSet.tryInsert`) fail, and leave the collection as it was,
exactly when the result would pass the bound. `BoundedSet.smallest` keeps the `n` least
elements of an ordered finite set, the way a take of `n` from an ordered set's iterator does.
-/

set_option autoImplicit false

/-- A list of at most `n` elements. -/
structure BoundedVec (α : Type) (n : ℕ) where
  toList : List α
  length_le : toList.length ≤ n
deriving DecidableEq

namespace BoundedVec

variable {α : Type} {n : ℕ}

/-- The empty vector, which is also the default value of a bounded vector. -/
def empty : BoundedVec α n := ⟨[], Nat.zero_le n⟩

instance : Inhabited (BoundedVec α n) := ⟨empty⟩

/-- Conversion from an unbounded list: it fails exactly when the list is longer than the bound. -/
def ofList? (l : List α) : Option (BoundedVec α n) :=
  if h : l.length ≤ n then some ⟨l, h⟩ else none

/-- Appends at the end when there is room; otherwise hands the element back and leaves the
vector unchanged. -/
def tryPush (v : BoundedVec α n) (a : α) : Except α (BoundedVec α n) :=
  if h : v.toList.length < n then
    .ok ⟨v.toList ++ [a], by rw [List.length_append, List.length_singleton]; omega⟩
  else .error a

/-- Keeps the elements that satisfy `p`, in their order. -/
def retain (v : BoundedVec α n) (p : α → Bool) : BoundedVec α n :=
  ⟨v.toList.filter p, (List.length_filter_le p _).trans v.length_le⟩

@[simp] theorem toList_empty : (empty : BoundedVec α n).toList = [] := rfl

@[simp] theorem toList_default : (default : BoundedVec α n).toList = [] := rfl

@[simp] theorem toList_retain (v : BoundedVec α n) (p : α → Bool) :
    (v.retain p).toList = v.toList.filter p := rfl

theorem ext_toList {v w : BoundedVec α n} (h : v.toList = w.toList) : v = w := by
  cases v
  cases w
  simp only at h
  subst h
  rfl

theorem ofList?_eq_some {l : List α} {v : BoundedVec α n} :
    ofList? l = some v ↔ v.toList = l := by
  unfold ofList?
  split
  · constructor
    · intro h
      cases h
      rfl
    · intro h
      exact congrArg some (ext_toList h.symm)
  · constructor
    · intro h
      cases h
    · intro h
      rename_i hlen
      exact absurd (h ▸ v.length_le) hlen

/-- `tryPush` succeeds exactly when there is room, and then appends the element. -/
theorem tryPush_eq_ok {v w : BoundedVec α n} {a : α} :
    v.tryPush a = .ok w ↔ v.toList.length < n ∧ w.toList = v.toList ++ [a] := by
  unfold tryPush
  split
  · constructor
    · intro h
      cases h
      exact ⟨by assumption, rfl⟩
    · rintro ⟨-, hw⟩
      exact congrArg Except.ok (ext_toList hw.symm)
  · constructor
    · intro h
      cases h
    · rintro ⟨hlt, -⟩
      contradiction

end BoundedVec

/-- A finite set of at most `n` elements. -/
structure BoundedSet (α : Type) [DecidableEq α] (n : ℕ) where
  toFinset : Finset α
  card_le : toFinset.card ≤ n

namespace BoundedSet

variable {α : Type} [DecidableEq α] {n : ℕ}

/-- The empty set, which is also the default value of a bounded set. -/
def empty : BoundedSet α n := ⟨∅, by simp⟩

instance : Inhabited (BoundedSet α n) := ⟨empty⟩

instance : Membership α (BoundedSet α n) := ⟨fun s a => a ∈ s.toFinset⟩

instance (a : α) (s : BoundedSet α n) : Decidable (a ∈ s) :=
  inferInstanceAs (Decidable (a ∈ s.toFinset))

/-- The number of elements. -/
def len (s : BoundedSet α n) : ℕ := s.toFinset.card

/-- Inserts `a` when the set has room or already holds `a`; otherwise hands `a` back and
leaves the set unchanged. -/
def tryInsert (s : BoundedSet α n) (a : α) : Except α (BoundedSet α n) :=
  if h : s.toFinset.card < n ∨ a ∈ s.toFinset then
    .ok ⟨insert a s.toFinset, by
      rcases h with h | h
      · exact (Finset.card_insert_le a _).trans h
      · rw [Finset.insert_eq_of_mem h]
        exact s.card_le⟩
  else .error a

@[simp] theorem mem_iff (a : α) (s : BoundedSet α n) : a ∈ s ↔ a ∈ s.toFinset := Iff.rfl

@[simp] theorem toFinset_empty : (empty : BoundedSet α n).toFinset = ∅ := rfl

@[simp] theorem toFinset_default : (default : BoundedSet α n).toFinset = ∅ := rfl

theorem ext_toFinset {s t : BoundedSet α n} (h : s.toFinset = t.toFinset) : s = t := by
  cases s
  cases t
  simp only at h
  subst h
  rfl

instance : DecidableEq (BoundedSet α n) := fun s t =>
  decidable_of_iff (s.toFinset = t.toFinset) ⟨ext_toFinset, fun h => h ▸ rfl⟩

/-- `tryInsert` succeeds exactly when there is room or the element is already there, and then
the result is the set with the element added. -/
theorem tryInsert_eq_ok {s t : BoundedSet α n} {a : α} :
    s.tryInsert a = .ok t ↔ (s.len < n ∨ a ∈ s) ∧ t.toFinset = insert a s.toFinset := by
  unfold tryInsert len
  split
  · constructor
    · intro h
      cases h
      exact ⟨by assumption, rfl⟩
    · rintro ⟨-, ht⟩
      exact congrArg Except.ok (ext_toFinset ht.symm)
  · constructor
    · intro h
      cases h
    · rintro ⟨h, -⟩
      contradiction

/-- A failed `tryInsert` means the set was full and did not hold the element. -/
theorem tryInsert_eq_error {s : BoundedSet α n} {a b : α} :
    s.tryInsert a = .error b ↔ s.len = n ∧ a ∉ s ∧ b = a := by
  have hle := s.card_le
  unfold tryInsert len
  split
  · rename_i h
    constructor
    · intro h'
      cases h'
    · rintro ⟨hn, hna, -⟩
      rcases h with h | h
      · omega
      · exact absurd h hna
  · rename_i h
    simp only [not_or, not_lt] at h
    constructor
    · intro h'
      cases h'
      exact ⟨by omega, h.2, rfl⟩
    · rintro ⟨-, -, rfl⟩
      rfl

end BoundedSet

namespace BoundedSet

section Smallest

variable {α : Type} [LinearOrder α]

/-- The elements of `s` with fewer than `n` elements of `s` below them: the first `n`
elements of `s` in increasing order. -/
def smallestSet (n : ℕ) (s : Finset α) : Finset α :=
  s.filter fun x => (s.filter (· < x)).card < n

theorem smallestSet_subset (n : ℕ) (s : Finset α) : smallestSet n s ⊆ s :=
  Finset.filter_subset _ _

/-- At most `n` elements have fewer than `n` elements below them: the greatest of them has
all the others below it. -/
theorem card_smallestSet_le (n : ℕ) (s : Finset α) : (smallestSet n s).card ≤ n := by
  rcases (smallestSet n s).eq_empty_or_nonempty with h | hne
  · simp [h]
  · set m := (smallestSet n s).max' hne with hm_def
    have hm : m ∈ smallestSet n s := Finset.max'_mem _ hne
    have hsub : (smallestSet n s).erase m ⊆ s.filter (· < m) := by
      intro x hx
      have hxm : x ≠ m := Finset.ne_of_mem_erase hx
      have hxT : x ∈ smallestSet n s := Finset.mem_of_mem_erase hx
      have hle : x ≤ m := Finset.le_max' _ x hxT
      exact Finset.mem_filter.mpr ⟨smallestSet_subset n s hxT, lt_of_le_of_ne hle hxm⟩
    have hlt : (s.filter (· < m)).card < n := (Finset.mem_filter.mp hm).2
    have hcard := Finset.card_le_card hsub
    rw [Finset.card_erase_of_mem hm] at hcard
    omega

/-- The bounded set of the `n` least elements of `s`. -/
def smallest (n : ℕ) (s : Finset α) : BoundedSet α n :=
  ⟨smallestSet n s, card_smallestSet_le n s⟩

theorem mem_smallest {n : ℕ} {s : Finset α} {a : α} (h : a ∈ smallest n s) : a ∈ s :=
  smallestSet_subset n s h

/-- The union of sets collected by a fold over a list. -/
theorem mem_foldr_union {β : Type} {f : β → Finset α} {a : α} {l : List β} :
    a ∈ l.foldr (fun e acc => f e ∪ acc) ∅ ↔ ∃ e ∈ l, a ∈ f e := by
  induction l with
  | nil => simp
  | cons e l ih => simp [ih]

end Smallest

end BoundedSet
