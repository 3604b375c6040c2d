import Mathlib.Data.List.AList

/-!
# Storage maps

A key-value store with finitely many entries: an association list with distinct keys
(Mathlib's `AList`). Beyond lookup, insert and erase, a runtime's storage maps offer a read
with a default for absent keys, the removal of every entry whose key passes a test, the
iteration over the entries of one first key of a double map, and a clear bounded by a limit
that reports whether entries remain. Their lemmas say how each of them reads back, and when a
read of several keys at once, all or nothing, succeeds.
-/

set_option autoImplicit false

/-- A finite map from `K` to `V`. -/
abbrev StorageMap (K V : Type) := AList (fun _ : K => V)

namespace StorageMap

variable {K V : Type} [DecidableEq K]

/-- The value at `k`, or `d` when there is none. -/
def getD (m : StorageMap K V) (k : K) (d : V) : V := (m.lookup k).getD d

/-- Keeps the entries whose key passes `p`. -/
def filterKeys (p : K → Bool) (m : StorageMap K V) : StorageMap K V :=
  ⟨m.entries.filter (fun e => p e.1), m.nodupKeys.sublist List.filter_sublist⟩

/-- Removes up to `limit` entries, the first ones in iteration order; the flag says whether
entries remain. -/
def clear (limit : ℕ) (m : StorageMap K V) : StorageMap K V × Bool :=
  if m.entries.length ≤ limit then (∅, false)
  else (⟨m.entries.drop limit, m.nodupKeys.sublist (List.drop_sublist _ _)⟩, true)

theorem dlookup_filter (p : K → Bool) (l : List (Σ _ : K, V)) (k : K) :
    (l.filter (fun e => p e.1)).dlookup k = if p k then l.dlookup k else none := by
  induction l with
  | nil => simp
  | cons e l ih =>
    obtain ⟨a, b⟩ := e
    by_cases hka : k = a
    · subst hka
      by_cases hp : p k <;> simp [hp, ih]
    · have hne : k ≠ (⟨a, b⟩ : Σ _ : K, V).1 := hka
      by_cases hp : p a <;>
        simp [hp, ih, List.dlookup_cons_ne _ _ hne]

@[simp] theorem lookup_filterKeys (p : K → Bool) (m : StorageMap K V) (k : K) :
    (m.filterKeys p).lookup k = if p k then m.lookup k else none :=
  dlookup_filter p m.entries k

@[simp] theorem getD_empty (k : K) (d : V) : getD (∅ : StorageMap K V) k d = d := rfl

@[simp] theorem getD_insert (m : StorageMap K V) (k : K) (v d : V) : getD (m.insert k v) k d = v := by
  simp [getD, AList.lookup_insert]

theorem getD_insert_ne (m : StorageMap K V) {k k' : K} (v d : V) (h : k ≠ k') :
    getD (m.insert k' v) k d = getD m k d := by
  simp [getD, AList.lookup_insert_ne h]

/-- Inserting a new key adds one key. -/
theorem length_keys_insert {m : StorageMap K V} {k : K} (v : V) (h : k ∉ m) :
    (m.insert k v).keys.length = m.keys.length + 1 := by
  rw [AList.keys_insert, List.length_cons, List.erase_of_not_mem (mt AList.mem_keys.mp h)]

omit [DecidableEq K] in
/-- A clear that leaves nothing behind empties the map. -/
theorem clear_of_not_more {limit : ℕ} {m m' : StorageMap K V} (h : clear limit m = (m', false)) :
    m' = ∅ := by
  unfold clear at h
  split at h
  · cases h
    rfl
  · cases h

section DoubleMap

variable {K₂ : Type} [DecidableEq K₂]

/-- The second keys and values of the entries whose first key is `k` (`iter_prefix`). -/
def iterPrefix (m : StorageMap (K × K₂) V) (k : K) : List (K₂ × V) :=
  (m.entries.filter (fun e => e.1.1 = k)).map (fun e => (e.1.2, e.2))

/-- Removes every entry whose first key is `k`. -/
def removePrefix (m : StorageMap (K × K₂) V) (k : K) : StorageMap (K × K₂) V :=
  m.filterKeys (fun key => key.1 != k)

theorem lookup_removePrefix (m : StorageMap (K × K₂) V) (k : K) (key : K × K₂) :
    (m.removePrefix k).lookup key = if key.1 = k then none else m.lookup key := by
  by_cases h : key.1 = k <;> simp [removePrefix, h]

theorem mem_removePrefix {m : StorageMap (K × K₂) V} {k : K} {key : K × K₂} :
    key ∈ m.removePrefix k ↔ key.1 ≠ k ∧ key ∈ m := by
  rw [← AList.lookup_isSome, ← AList.lookup_isSome, lookup_removePrefix]
  by_cases h : key.1 = k <;> simp [h]

theorem mem_iterPrefix {m : StorageMap (K × K₂) V} {k : K} {k₂ : K₂} {v : V} :
    (k₂, v) ∈ m.iterPrefix k ↔ m.lookup (k, k₂) = some v := by
  rw [← Option.mem_def, AList.mem_lookup_iff]
  simp only [iterPrefix, List.mem_map, List.mem_filter, decide_eq_true_eq]
  constructor
  · rintro ⟨⟨⟨k', k₂'⟩, v'⟩, ⟨hmem, hk⟩, heq⟩
    simp only [Prod.mk.injEq] at heq hk
    obtain ⟨rfl, rfl⟩ := heq
    subst hk
    exact hmem
  · intro hmem
    exact ⟨⟨(k, k₂), v⟩, ⟨hmem, rfl⟩, rfl⟩

end DoubleMap

section Many

variable {α : Type}

/-- Reading several keys all or nothing, as a `collect` into an `Option` of a vector does,
succeeds exactly when every key has a value. -/
theorem isSome_mapM_lookup {m : StorageMap K V} {f : α → K} {l : List α} :
    (l.mapM fun a => m.lookup (f a)).isSome ↔ ∀ a ∈ l, f a ∈ m := by
  induction l with
  | nil => simp
  | cons a l ih =>
    rw [List.forall_mem_cons, ← ih, ← AList.lookup_isSome, List.mapM_cons]
    cases m.lookup (f a) <;> cases l.mapM (fun a => m.lookup (f a)) <;> simp

end Many

end StorageMap
