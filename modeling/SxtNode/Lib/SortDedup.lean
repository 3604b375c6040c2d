import Mathlib.Data.List.Destutter
import Mathlib.Order.Lattice

/-!
# Sorting by a key, then dropping repeated keys

Rust's `sort_by` is a stable merge sort, and `Vec::dedup_by` drops every element that its
predicate relates to the last element it kept. Sorting by a key into a linear order and then
dropping each element whose key is the last kept one's leaves one element per key, with the keys
strictly increasing (`pairwise_ne_dedupBy`), every key of the input still present
(`exists_key_mem_dedupBy`), and, because the sort is stable, the element kept for a key is the
first one the input had with that key (`find?_key_mergeSort`, `find?_of_mem_dedupBy`).
-/

set_option autoImplicit false

namespace List

variable {α : Type}

/-- Rust's `Vec::dedup_by`: drops each element `a` for which `sameBucket a kept` holds of the last
element `kept` kept so far. -/
def dedupBy (sameBucket : α → α → Bool) (l : List α) : List α :=
  l.destutter fun kept a => sameBucket a kept = false

theorem dedupBy_sublist (sameBucket : α → α → Bool) (l : List α) : l.dedupBy sameBucket <+ l :=
  destutter_sublist _ l

section Key

-- The comparison's decidability is left to unification, so that the lemmas apply to a key type's
-- own decision procedure (such as `String.decLE`) without unfolding it.
variable {κ : Type} [LinearOrder κ] {dec : DecidableRel (α := κ) (· ≤ ·)} (key : α → κ)

theorem decide_key_le_trans (a b c : α) (hab : decide (key a ≤ key b) = true)
    (hbc : decide (key b ≤ key c) = true) : decide (key a ≤ key c) = true := by
  simp only [decide_eq_true_eq] at hab hbc ⊢
  exact hab.trans hbc

theorem decide_key_le_total (a b : α) : (decide (key a ≤ key b) || decide (key b ≤ key a)) = true := by
  simpa using le_total (key a) (key b)

/-- Sorting by key orders the keys. -/
theorem pairwise_key_mergeSort (l : List α) :
    (l.mergeSort fun a b => decide (key a ≤ key b)).Pairwise fun a b => key a ≤ key b := by
  simpa using pairwise_mergeSort (decide_key_le_trans key) (decide_key_le_total key) l

/-- Sorting by key keeps the elements of one key in their order: stability. -/
theorem filter_key_mergeSort (l : List α) (k : κ) :
    (l.mergeSort fun a b => decide (key a ≤ key b)).filter (fun a => key a == k) =
      l.filter (fun a => key a == k) := by
  -- the elements of key `k` are sorted among themselves, so they stay a sublist of the sorted list
  have hsorted : (l.filter fun a => key a == k).Pairwise fun a b => decide (key a ≤ key b) = true := by
    refine pairwise_of_forall_mem_list fun a ha b hb => ?_
    simp only [mem_filter, beq_iff_eq] at ha hb
    simp [ha.2, hb.2]
  have hsub := sublist_mergeSort (decide_key_le_trans key) (decide_key_le_total key) hsorted
    (filter_sublist : l.filter (fun a => key a == k) <+ l)
  have hsub' := hsub.filter fun a => key a == k
  rw [filter_filter, filter_congr (fun a _ => Bool.and_self (key a == k))] at hsub'
  have hlen := ((mergeSort_perm l fun a b => decide (key a ≤ key b)).filter fun a => key a == k).length_eq
  exact (hsub'.eq_of_length hlen.symm).symm

theorem find?_key_mergeSort (l : List α) (k : κ) :
    (l.mergeSort fun a b => decide (key a ≤ key b)).find? (fun a => key a == k) =
      l.find? (fun a => key a == k) := by
  rw [← head?_filter, ← head?_filter, filter_key_mergeSort]

/-- The relation `dedupBy` keeps neighbours by, for equal keys. -/
abbrev KeyDiffers (kept a : α) : Prop := (key a == key kept) = false

/-- On a list sorted by key, each element the dedup keeps is the first of its key. -/
theorem find?_of_mem_destutter' {h : α} {t : List α} (hsorted : (h :: t).Pairwise fun a b => key a ≤ key b)
    {a : α} (ha : a ∈ t.destutter' (KeyDiffers key) h) : (h :: t).find? (fun x => key x == key a) = some a := by
  induction t generalizing h with
  | nil =>
    rw [destutter'_nil, mem_singleton] at ha
    subst ha
    simp
  | cons b t ih =>
    have hhb : key h ≤ key b := rel_of_pairwise_cons hsorted mem_cons_self
    by_cases hkey : key b = key h
    · -- `b` repeats `h`'s key: it is dropped, and it is never the first of another key
      rw [destutter'_cons_neg _ (by simp [KeyDiffers, hkey])] at ha
      have hfind := ih (hsorted.sublist (.cons_cons h (sublist_cons_self b t))) ha
      by_cases hah : key h = key a
      · rw [find?_cons_of_pos (by simp [hah])] at hfind ⊢
        exact hfind
      · rw [find?_cons_of_neg (by simpa using hah)] at hfind ⊢
        rw [find?_cons_of_neg (by simpa [hkey] using hah)]
        exact hfind
    · rw [destutter'_cons_pos _ (by simpa [KeyDiffers] using hkey)] at ha
      rcases mem_cons.mp ha with rfl | ha
      · simp
      · -- `a` is the first of its key after `b`, whose key is already above `h`'s
        have hfind := ih hsorted.of_cons ha
        have hba : key b ≤ key a := by
          rcases mem_cons.mp (mem_of_find?_eq_some hfind) with rfl | hat
          · exact le_rfl
          · exact rel_of_pairwise_cons hsorted.of_cons hat
        have hha : key h ≠ key a := (lt_of_lt_of_le (lt_of_le_of_ne hhb (Ne.symm hkey)) hba).ne
        rw [find?_cons_of_neg (by simpa using hha)]
        exact hfind

/-- The dedup drops no key: every element's key is the key of one it keeps. -/
theorem exists_key_mem_destutter' {h : α} {t : List α} {x : α} (hx : x ∈ h :: t) :
    ∃ y ∈ t.destutter' (KeyDiffers key) h, key y = key x := by
  induction t generalizing h with
  | nil =>
    rw [mem_singleton] at hx
    subst hx
    exact ⟨x, mem_destutter' _ _ x, rfl⟩
  | cons b t ih =>
    by_cases hkey : key b = key h
    · -- `b` is dropped, and `h`, which is kept, has its key
      rw [destutter'_cons_neg _ (by simp [KeyDiffers, hkey])]
      rcases mem_cons.mp hx with rfl | hx
      · exact ⟨x, mem_destutter' _ _ x, rfl⟩
      · rcases mem_cons.mp hx with rfl | hx
        · exact ⟨h, mem_destutter' _ _ h, hkey.symm⟩
        · exact ih (mem_cons_of_mem h hx)
    · rw [destutter'_cons_pos _ (by simpa [KeyDiffers] using hkey)]
      rcases mem_cons.mp hx with rfl | hx
      · exact ⟨x, mem_cons_self, rfl⟩
      · obtain ⟨y, hy, hyx⟩ := ih hx
        exact ⟨y, mem_cons_of_mem _ hy, hyx⟩

theorem find?_of_mem_dedupBy {l : List α} (hsorted : l.Pairwise fun a b => key a ≤ key b) {a : α}
    (ha : a ∈ l.dedupBy fun a b => key a == key b) : l.find? (fun x => key x == key a) = some a := by
  cases l with
  | nil => simp [dedupBy] at ha
  | cons h t => exact find?_of_mem_destutter' key hsorted ha

theorem exists_key_mem_dedupBy {l : List α} {x : α} (hx : x ∈ l) :
    ∃ y ∈ l.dedupBy (fun a b => key a == key b), key y = key x := by
  cases l with
  | nil => simp at hx
  | cons h t => exact exists_key_mem_destutter' key hx

/-- Keys sorted in order that differ between neighbours differ pairwise. -/
theorem pairwise_ne_of_isChain {l : List α} (hsorted : l.Pairwise fun a b => key a ≤ key b)
    (hchain : l.IsChain fun a b => key a ≠ key b) : l.Pairwise fun a b => key a ≠ key b := by
  have hlt : l.IsChain fun a b => key a < key b := by
    have hle := isChain_iff_getElem.mp hsorted.isChain
    rw [isChain_iff_getElem] at hchain ⊢
    intro i hi
    exact lt_of_le_of_ne (hle i hi) (hchain i hi)
  have htrans : Trans (fun a b : α => key a < key b) (fun a b => key a < key b) (fun a b => key a < key b) :=
    ⟨lt_trans⟩
  exact (isChain_iff_pairwise.mp hlt).imp ne_of_lt

/-- After the dedup of a list sorted by key, no two elements share a key. -/
theorem pairwise_ne_dedupBy {l : List α} (hsorted : l.Pairwise fun a b => key a ≤ key b) :
    (l.dedupBy fun a b => key a == key b).Pairwise fun a b => key a ≠ key b := by
  have hchain : (l.dedupBy fun a b => key a == key b).IsChain fun a b => key a ≠ key b := by
    refine (isChain_destutter (KeyDiffers key) l).imp fun a b hab => ?_
    simp only [KeyDiffers, beq_eq_false_iff_ne] at hab
    exact Ne.symm hab
  exact pairwise_ne_of_isChain key (hsorted.sublist (dedupBy_sublist _ l)) hchain

/-- A list whose keys already increase strictly comes out of the sort and the dedup unchanged. -/
theorem dedupBy_mergeSort_of_pairwise_lt {l : List α} (hlt : l.Pairwise fun a b => key a < key b) :
    (l.mergeSort fun a b => decide (key a ≤ key b)).dedupBy (fun a b => key a == key b) = l := by
  have hle : l.Pairwise fun a b => decide (key a ≤ key b) = true :=
    hlt.imp fun hab => by simpa using hab.le
  rw [mergeSort_of_pairwise hle]
  refine destutter_of_isChain _ l (hlt.isChain.imp fun a b hab => ?_)
  simpa [KeyDiffers] using hab.ne'

end Key

end List
