import Mathlib.Data.List.Nodup

/-!
# Insertion-ordered maps

An insertion-ordered map is a list of pairs with distinct keys. Inserting a key that is
present replaces its value in place; a new key goes to the end. `IndexMap.fromList` collects a
list of pairs this way, so a later pair of a repeated key overwrites the first one's value
and keeps its position, and the result has as many entries as the list has distinct keys.
`IndexMap.shiftRemoveEntry` takes one entry out and keeps the order of the rest.
-/

set_option autoImplicit false

namespace IndexMap

variable {K V : Type} [DecidableEq K]

/-- Collects a list into an insertion-ordered set: the first occurrence of each element, in
order. -/
def dedup (l : List K) : List K :=
  l.foldl (fun acc x => if x ∈ acc then acc else acc ++ [x]) []

/-- The keys, in order. -/
def keys (m : List (K × V)) : List K := m.map Prod.fst

/-- Replaces the value of `k` in place, or appends `(k, v)` when `k` is new. -/
def insert (m : List (K × V)) (k : K) (v : V) : List (K × V) :=
  if k ∈ keys m then m.map (fun e => if e.1 = k then (k, v) else e) else m ++ [(k, v)]

/-- Collects a list of pairs by successive insertion. -/
def fromList (l : List (K × V)) : List (K × V) :=
  l.foldl (fun m e => insert m e.1 e.2) []

/-- The value of `k`. -/
def get? (m : List (K × V)) (k : K) : Option V :=
  (m.find? (fun e => e.1 = k)).map Prod.snd

/-- Takes the entry of `k` out, keeping the order of the other entries. -/
def shiftRemoveEntry (m : List (K × V)) (k : K) : Option (K × V) × List (K × V) :=
  match m.find? (fun e => e.1 = k) with
  | some e => (some e, m.filter (fun e => e.1 ≠ k))
  | none => (none, m)

theorem keys_insert (m : List (K × V)) (k : K) (v : V) :
    keys (insert m k v) = if k ∈ keys m then keys m else keys m ++ [k] := by
  unfold insert keys
  split
  · rw [List.map_map]
    congr 1
    funext e
    by_cases h : e.1 = k <;> simp [h]
  · simp

theorem nodup_keys_insert {m : List (K × V)} (h : (keys m).Nodup) (k : K) (v : V) :
    (keys (insert m k v)).Nodup := by
  rw [keys_insert]
  split
  · exact h
  · rename_i hk
    exact List.nodup_append.mpr ⟨h, List.nodup_singleton k, by
      intro a ha b hb
      rw [List.mem_singleton] at hb
      subst hb
      intro hab
      subst hab
      exact hk ha⟩

/-- Every entry after an insertion is an old entry or the inserted pair. -/
theorem mem_insert {m : List (K × V)} {k : K} {v : V} {e : K × V} (he : e ∈ insert m k v) :
    e ∈ m ∨ e = (k, v) := by
  unfold insert at he
  split at he
  · obtain ⟨e', he', rfl⟩ := List.mem_map.mp he
    by_cases h : e'.1 = k
    · right
      simp [h]
    · left
      simpa [h] using he'
  · rcases List.mem_append.mp he with h | h
    · exact Or.inl h
    · exact Or.inr (List.mem_singleton.mp h)

theorem insert_ne_nil (m : List (K × V)) (k : K) (v : V) : insert m k v ≠ [] := by
  unfold insert
  split
  · rename_i hk
    intro h
    simp [keys, List.map_eq_nil_iff.mp h] at hk
  · simp

/-- The fold behind `fromList`, from any starting map. -/
theorem foldl_insert_nodup (l : List (K × V)) (m : List (K × V)) (h : (keys m).Nodup) :
    (keys (l.foldl (fun m e => insert m e.1 e.2) m)).Nodup := by
  induction l generalizing m with
  | nil => exact h
  | cons e l ih => exact ih (insert m e.1 e.2) (nodup_keys_insert h e.1 e.2)

theorem foldl_insert_mem (l : List (K × V)) (m : List (K × V)) {e : K × V}
    (he : e ∈ l.foldl (fun m e => insert m e.1 e.2) m) : e ∈ m ∨ e ∈ l := by
  induction l generalizing m with
  | nil => exact Or.inl he
  | cons a l ih =>
    rcases ih (insert m a.1 a.2) he with h | h
    · rcases mem_insert h with h' | h'
      · exact Or.inl h'
      · exact Or.inr (h' ▸ List.mem_cons_self)
    · exact Or.inr (List.mem_cons_of_mem a h)

/-- The keys of a collected map are distinct. -/
theorem nodup_keys_fromList (l : List (K × V)) : (keys (fromList l)).Nodup :=
  foldl_insert_nodup l [] List.nodup_nil

/-- Every entry of a collected map is a pair of the list. -/
theorem mem_of_mem_fromList {l : List (K × V)} {e : K × V} (he : e ∈ fromList l) : e ∈ l := by
  rcases foldl_insert_mem l [] he with h | h
  · cases h
  · exact h

theorem foldl_insert_ne_nil (l : List (K × V)) (m : List (K × V)) (h : m ≠ [] ∨ l ≠ []) :
    l.foldl (fun m e => insert m e.1 e.2) m ≠ [] := by
  induction l generalizing m with
  | nil =>
    rcases h with h | h
    · exact h
    · exact absurd rfl h
  | cons e l ih => exact ih (insert m e.1 e.2) (Or.inl (insert_ne_nil m e.1 e.2))

theorem fromList_ne_nil {l : List (K × V)} (h : l ≠ []) : fromList l ≠ [] :=
  foldl_insert_ne_nil l [] (Or.inr h)

/-- The fold behind `dedup` appends a list that repeats nothing already collected. -/
theorem foldl_dedup_of_nodup {l acc : List K} (h : (acc ++ l).Nodup) :
    l.foldl (fun acc x => if x ∈ acc then acc else acc ++ [x]) acc = acc ++ l := by
  induction l generalizing acc with
  | nil => simp
  | cons x l ih =>
    have hx : x ∉ acc := fun hx => (List.nodup_append.mp h).2.2 x hx x List.mem_cons_self rfl
    rw [List.foldl_cons, if_neg hx, ih (by simpa using h), List.append_assoc, List.singleton_append]

theorem dedup_eq_self {l : List K} (h : l.Nodup) : dedup l = l :=
  foldl_dedup_of_nodup (by simpa using h)

/-- The fold behind `fromList` appends a list whose keys are new and distinct. -/
theorem foldl_insert_of_nodup {l m : List (K × V)} (h : (keys (m ++ l)).Nodup) :
    l.foldl (fun m e => insert m e.1 e.2) m = m ++ l := by
  induction l generalizing m with
  | nil => simp
  | cons e l ih =>
    have hk : e.1 ∉ keys m := by
      simp only [keys, List.map_append, List.map_cons] at h
      exact fun hk => (List.nodup_append.mp h).2.2 e.1 hk e.1 List.mem_cons_self rfl
    have hins : insert m e.1 e.2 = m ++ [e] := by simp [insert, hk]
    rw [List.foldl_cons, hins, ih (by simpa [keys] using h), List.append_assoc, List.singleton_append]

/-- Collecting a list whose keys are distinct changes nothing. -/
theorem fromList_eq_self {l : List (K × V)} (h : (keys l).Nodup) : fromList l = l :=
  foldl_insert_of_nodup (by simpa using h)

/-- An inserted key reads back its value: an existing entry is replaced in place, a new one
is appended after entries of other keys. -/
theorem get?_insert_self (m : List (K × V)) (k : K) (v : V) : get? (insert m k v) k = some v := by
  unfold insert get?
  split
  · rename_i hk
    -- replacing values keeps which entries have key `k`
    have hpred : ((fun e : K × V => decide (e.1 = k)) ∘ fun e => if e.1 = k then (k, v) else e) =
        fun e => decide (e.1 = k) := by
      funext e
      by_cases h : e.1 = k <;> simp [h]
    obtain ⟨e, he, hek⟩ := List.mem_map.mp hk
    obtain ⟨e', he'⟩ := Option.isSome_iff_exists.mp
      (List.find?_isSome.mpr ⟨e, he, by simp [hek]⟩ : (m.find? fun e => decide (e.1 = k)).isSome)
    have hek' : e'.1 = k := by simpa using List.find?_some he'
    rw [List.find?_map, hpred, he']
    simp [hek']
  · rename_i hk
    have hnone : m.find? (fun e => decide (e.1 = k)) = none := by
      rw [List.find?_eq_none]
      intro e he hek
      exact hk (List.mem_map.mpr ⟨e, he, by simpa using hek⟩)
    rw [List.find?_append, hnone]
    simp

theorem fromList_append_singleton (l : List (K × V)) (k : K) (v : V) :
    fromList (l ++ [(k, v)]) = insert (fromList l) k v := by
  rw [fromList, List.foldl_append]
  rfl

/-- The value of a key in a collected list is that of its last pair. -/
theorem get?_fromList_append_singleton (l : List (K × V)) (k : K) (v : V) :
    get? (fromList (l ++ [(k, v)])) k = some v := by
  rw [fromList_append_singleton, get?_insert_self]

theorem mem_of_shiftRemoveEntry_fst {m : List (K × V)} {k : K} {e : K × V}
    (h : (shiftRemoveEntry m k).1 = some e) : e ∈ m := by
  unfold shiftRemoveEntry at h
  split at h
  · rename_i e' hf
    cases h
    exact List.mem_of_find?_eq_some hf
  · cases h

theorem mem_of_mem_shiftRemoveEntry_snd {m : List (K × V)} {k : K} {e : K × V}
    (h : e ∈ (shiftRemoveEntry m k).2) : e ∈ m := by
  unfold shiftRemoveEntry at h
  split at h
  · exact List.mem_of_mem_filter h
  · exact h

/-- With distinct keys, an entry is the only one of its key. -/
theorem filter_key_eq_singleton {m : List (K × V)} (hnd : (keys m).Nodup) {e : K × V} (he : e ∈ m) :
    m.filter (fun x => x.1 = e.1) = [e] := by
  induction m with
  | nil => cases he
  | cons x m ih =>
    rw [keys, List.map_cons, List.nodup_cons] at hnd
    obtain ⟨hx, hnd⟩ := hnd
    rcases List.mem_cons.mp he with rfl | he
    · -- no later entry has the first entry's key
      have hnone : m.filter (fun y => y.1 = e.1) = [] :=
        List.filter_eq_nil_iff.mpr fun y hy hye => hx (List.mem_map.mpr ⟨y, hy, by simpa using hye⟩)
      simp [hnone]
    · have hxe : x.1 ≠ e.1 := fun h => hx (h ▸ List.mem_map_of_mem he)
      simp [hxe, ih hnd he]

/-- With distinct keys, a map is an entry followed by the entries of the other keys, up to order. -/
theorem perm_cons_filter_ne {m : List (K × V)} (hnd : (keys m).Nodup) {e : K × V} (he : e ∈ m) :
    m.Perm (e :: m.filter fun x => x.1 ≠ e.1) := by
  have hsplit := List.filter_append_perm (fun x : K × V => decide (x.1 = e.1)) m
  rw [filter_key_eq_singleton hnd he] at hsplit
  simpa using hsplit.symm

theorem keys_filter_ne (m : List (K × V)) (k : K) :
    keys (m.filter fun x => x.1 ≠ k) = (keys m).filter (· ≠ k) := by
  rw [keys, keys, List.filter_map]
  rfl

/-- With distinct keys, the entry of a key in the map is taken out whole. -/
theorem shiftRemoveEntry_of_mem {m : List (K × V)} (hnd : (keys m).Nodup) {e : K × V} (he : e ∈ m) :
    shiftRemoveEntry m e.1 = (some e, m.filter fun x => x.1 ≠ e.1) := by
  have hfind : m.find? (fun x => x.1 = e.1) = some e := by
    rw [← List.head?_filter, filter_key_eq_singleton hnd he]
    rfl
  simp only [shiftRemoveEntry, hfind]

theorem shiftRemoveEntry_of_not_mem {m : List (K × V)} {k : K} (hk : k ∉ keys m) :
    shiftRemoveEntry m k = (none, m) := by
  have hfind : m.find? (fun x => x.1 = k) = none :=
    List.find?_eq_none.mpr fun x hx hxk => hk (List.mem_map.mpr ⟨x, hx, by simpa using hxk⟩)
  simp only [shiftRemoveEntry, hfind]

omit [DecidableEq K] in
/-- Two maps with the same entries and the same distinct keys in the same order are equal. -/
theorem eq_of_perm_of_keys_eq {l₁ l₂ : List (K × V)} (hp : l₁.Perm l₂) (hk : keys l₁ = keys l₂)
    (hnd : (keys l₁).Nodup) : l₁ = l₂ := by
  induction l₁ generalizing l₂ with
  | nil => exact List.Perm.nil_eq hp
  | cons a t ih =>
    cases l₂ with
    | nil => exact absurd hp.length_eq (by simp)
    | cons b t' =>
      rw [keys, List.map_cons, List.nodup_cons] at hnd
      simp only [keys, List.map_cons, List.cons.injEq] at hk
      obtain ⟨hab, hkt⟩ := hk
      -- the heads share a key, which occurs once, so they are the same entry
      have hba : b = a := by
        rcases List.mem_cons.mp (hp.subset List.mem_cons_self) with h | h
        · exact h.symm
        · have hmem : a.1 ∈ t.map Prod.fst := by
            rw [hkt]
            exact List.mem_map_of_mem h
          exact absurd hmem hnd.1
      subst hba
      rw [ih (List.Perm.cons_inv hp) hkt hnd.2]

/-- Taking an entry out of a non-empty map leaves it non-empty or returns the entry. -/
theorem shiftRemoveEntry_ne_nil {m : List (K × V)} (k : K) (hm : m ≠ []) :
    (shiftRemoveEntry m k).1.isSome ∨ (shiftRemoveEntry m k).2 ≠ [] := by
  unfold shiftRemoveEntry
  split
  · exact Or.inl rfl
  · exact Or.inr hm

end IndexMap
