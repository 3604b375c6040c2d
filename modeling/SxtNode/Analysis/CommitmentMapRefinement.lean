import SxtNode.Model.CommitmentMap

/-!
# Commitment maps refine a finite map per key

The reference model of a commitment map is a function from keys to the commitments of each
scheme. Creating commitments for a key succeeds when the key has none and sets them; updating
succeeds when the new commitments have exactly the key's schemes and sets them; deleting
leaves the key with none. The crate builds these key-atomic operations once, over the four
per-scheme primitives of a `CommitmentMapImplementor`.

`Lawful` says what the primitives must do, read through `get_commitments`: the presence test
agrees with the read, and a write or a removal changes the read of its key and scheme only.
`Lawful.refines` derives from it that the blanket operations follow the reference model call
by call and over every sequence of calls, with `schemes_for_key` the flags of
`get_commitments` in every state. Both implementors of the crate are lawful.
-/

set_option autoImplicit false

namespace SxtNode

namespace PerCommitmentScheme

variable {T : CommitmentScheme → Type}

/-- The values with `a` stored under its scheme. -/
def setAny (p : PerCommitmentScheme (fun s => Option (T s))) :
    AnyCommitmentScheme T → PerCommitmentScheme (fun s => Option (T s))
  | .HyperKzg x => { p with hyperKzg := some x }
  | .DynamicDory x => { p with dynamicDory := some x }

/-- The values without the one of scheme `s`. -/
def erase (p : PerCommitmentScheme (fun s => Option (T s))) :
    CommitmentScheme → PerCommitmentScheme (fun s => Option (T s))
  | .HyperKzg => { p with hyperKzg := Option.none }
  | .DynamicDory => { p with dynamicDory := Option.none }

/-- Writing the present values of `c` over `p`, one after the other, keeps `c` where it has a
value and `p` elsewhere. -/
theorem foldl_setAny_intoFlatIter (p c : PerCommitmentScheme (fun s => Option (T s))) :
    c.intoFlatIter.foldl setAny p = ⟨c.hyperKzg.or p.hyperKzg, c.dynamicDory.or p.dynamicDory⟩ := by
  obtain ⟨h, d⟩ := c
  cases h <;> cases d <;> rfl

/-- Over values with the same schemes, or with none, the written values are `c`. -/
theorem or_eq_self_of_toFlags {p c : PerCommitmentScheme (fun s => Option (T s))}
    (h : p.toFlags = c.toFlags ∨ p.toFlags = default) :
    (⟨c.hyperKzg.or p.hyperKzg, c.dynamicDory.or p.dynamicDory⟩ : PerCommitmentScheme (fun s => Option (T s))) = c := by
  obtain ⟨ph, pd⟩ := p
  obtain ⟨ch, cd⟩ := c
  simp only [toFlags, CommitmentSchemeFlags.mk.injEq] at h
  cases ph <;> cases pd <;> cases ch <;> cases cd <;> simp_all

end PerCommitmentScheme

/-- A call on a commitment map. -/
inductive CommitmentMapCall (K : Type) (V : CommitmentScheme → Type) where
  | createCommitments (k : K) (c : PerCommitmentScheme (fun s => Option (V s)))
  | updateCommitments (k : K) (c : PerCommitmentScheme (fun s => Option (V s)))
  | deleteCommitments (k : K)

/-- The key a call is about. -/
def CommitmentMapCall.key {K : Type} {V : CommitmentScheme → Type} : CommitmentMapCall K V → K
  | .createCommitments k _ => k
  | .updateCommitments k _ => k
  | .deleteCommitments k => k

/-- The reference commitment map: the commitments of each scheme, per key. -/
abbrev RefCommitmentMap (K : Type) (V : CommitmentScheme → Type) := K → PerCommitmentScheme (fun s => Option (V s))

namespace RefCommitmentMap

variable {K : Type} [DecidableEq K] {V : CommitmentScheme → Type}

/-- What a call does to the reference map; `none` when it is rejected. -/
def apply (r : RefCommitmentMap K V) : CommitmentMapCall K V → Option (RefCommitmentMap K V)
  | .createCommitments k c => if (r k).toFlags = default then some (Function.update r k c) else none
  | .updateCommitments k c => if c.toFlags = (r k).toFlags then some (Function.update r k c) else none
  | .deleteCommitments k => some (Function.update r k .none)

/-- A sequence of calls, each rejected call changing nothing. -/
def run (r : RefCommitmentMap K V) (calls : List (CommitmentMapCall K V)) : RefCommitmentMap K V :=
  calls.foldl (fun r c => (r.apply c).getD r) r

/-- A call changes the reference map at its own key only. -/
theorem apply_of_ne {r r' : RefCommitmentMap K V} {call : CommitmentMapCall K V} (h : r.apply call = some r')
    {k : K} (hk : k ≠ call.key) : r' k = r k := by
  cases call with
  | createCommitments k' c =>
    simp only [apply] at h
    split at h
    · cases h
      exact Function.update_of_ne hk _ _
    · cases h
  | updateCommitments k' c =>
    simp only [apply] at h
    split at h
    · cases h
      exact Function.update_of_ne hk _ _
    · cases h
  | deleteCommitments k' =>
    cases h
    exact Function.update_of_ne hk _ _

end RefCommitmentMap

namespace CommitmentMapImplementor

variable {M K : Type} {V : CommitmentScheme → Type} (I : CommitmentMapImplementor M K V)

/-- A call through the implementor's key-atomic operations; `none` when it is rejected. -/
def apply (m : M) : CommitmentMapCall K V → Option M
  | .createCommitments k c => (I.createCommitments m k c).toOption
  | .updateCommitments k c => (I.updateCommitments m k c).toOption
  | .deleteCommitments k => some (I.deleteCommitments m k)

/-- A sequence of calls, each rejected call leaving the map as it was. -/
def run (m : M) (calls : List (CommitmentMapCall K V)) : M :=
  calls.foldl (fun m c => (I.apply m c).getD m) m

variable [DecidableEq K]

/-- What the four primitives must do, read through `get_commitments`: the presence test agrees
with the read, and writing or removing the commitment of one key and scheme changes the read of
that key and scheme only. -/
structure Lawful : Prop where
  hasKeyAndScheme_eq : ∀ m k s, I.hasKeyAndScheme m k s = ((I.getCommitments m k).get s).isSome
  getCommitments_set : ∀ m k a, I.getCommitments (I.setCommitmentForAnyScheme m k a) =
    Function.update (I.getCommitments m) k ((I.getCommitments m k).setAny a)
  getCommitments_delete : ∀ m k s, I.getCommitments (I.deleteCommitmentForAnyScheme m k s) =
    Function.update (I.getCommitments m) k ((I.getCommitments m k).erase s)

/-- The commitment map refines the reference map: in every state `schemes_for_key` gives the
flags of `get_commitments`; each call is accepted exactly when the reference accepts it on the
map's contents, and then leads to the reference's result, which differs from the old contents at
the call's key only; and so does every sequence of calls. -/
structure Refines : Prop where
  schemesForKey_eq : ∀ m k, I.schemesForKey m k = (I.getCommitments m k).toFlags
  apply_view : ∀ m call, (I.apply m call).map I.getCommitments = RefCommitmentMap.apply (I.getCommitments m) call
  frame : ∀ m call m' k, I.apply m call = some m' → k ≠ call.key → I.getCommitments m' k = I.getCommitments m k
  run_view : ∀ m calls, I.getCommitments (I.run m calls) = RefCommitmentMap.run (I.getCommitments m) calls

namespace Lawful

variable {I}

theorem schemesForKey_eq (hI : I.Lawful) (m : M) (k : K) :
    I.schemesForKey m k = (I.getCommitments m k).toFlags := by
  have hhas : I.hasKeyAndScheme m k = fun s => ((I.getCommitments m k).get s).isSome :=
    funext (hI.hasKeyAndScheme_eq m k)
  rw [schemesForKey, CommitmentSchemeFlags.schemes_all, hhas]
  generalize I.getCommitments m k = p
  obtain ⟨h, d⟩ := p
  cases h <;> cases d <;> rfl

theorem hasKey_eq (hI : I.Lawful) (m : M) (k : K) :
    I.hasKey m k = !decide ((I.getCommitments m k).toFlags = default) := by
  unfold hasKey
  rw [hI.schemesForKey_eq]
  generalize I.getCommitments m k = p
  obtain ⟨h, d⟩ := p
  cases h <;> cases d <;> rfl

/-- Writing a list of commitments under `k` reads back as their fold over the old ones. -/
theorem getCommitments_foldl_set (hI : I.Lawful) (k : K) (l : List (AnyCommitmentScheme V)) (m : M) :
    I.getCommitments (l.foldl (fun m a => I.setCommitmentForAnyScheme m k a) m) =
      Function.update (I.getCommitments m) k (l.foldl PerCommitmentScheme.setAny (I.getCommitments m k)) := by
  induction l generalizing m with
  | nil => simp
  | cons a l ih =>
    rw [List.foldl_cons, ih, hI.getCommitments_set, List.foldl_cons, Function.update_self,
      Function.update_idem]

/-- `setAll` reads back as the new commitments where present, the old ones elsewhere. -/
theorem getCommitments_setAll (hI : I.Lawful) (m : M) (k : K) (c : PerCommitmentScheme (fun s => Option (V s))) :
    I.getCommitments (I.setAll m k c) = Function.update (I.getCommitments m) k
      ⟨c.hyperKzg.or (I.getCommitments m k).hyperKzg, c.dynamicDory.or (I.getCommitments m k).dynamicDory⟩ := by
  rw [setAll, hI.getCommitments_foldl_set, PerCommitmentScheme.foldl_setAny_intoFlatIter]

theorem getCommitments_deleteCommitments (hI : I.Lawful) (m : M) (k : K) :
    I.getCommitments (I.deleteCommitments m k) = Function.update (I.getCommitments m) k .none := by
  -- `delete_commitments` removes the two schemes in turn
  rw [deleteCommitments, CommitmentSchemeFlags.schemes_all, List.foldl_cons, List.foldl_cons, List.foldl_nil,
    hI.getCommitments_delete, hI.getCommitments_delete, Function.update_self, Function.update_idem]
  rfl

theorem apply_view (hI : I.Lawful) (m : M) (call : CommitmentMapCall K V) :
    (I.apply m call).map I.getCommitments = RefCommitmentMap.apply (I.getCommitments m) call := by
  cases call with
  | createCommitments k c =>
    simp only [apply, createCommitments, RefCommitmentMap.apply, hI.hasKey_eq]
    by_cases hnone : (I.getCommitments m k).toFlags = default
    · -- a key without commitments takes the new ones
      simp only [hnone, decide_true, Bool.not_true, Bool.false_eq_true, if_false, if_true, Except.toOption,
        Option.map_some, hI.getCommitments_setAll, PerCommitmentScheme.or_eq_self_of_toFlags (Or.inr hnone)]
    · simp only [CommitmentSchemeFlags.default_eq] at hnone
      simp [hnone, Except.toOption]
  | updateCommitments k c =>
    simp only [apply, updateCommitments, RefCommitmentMap.apply, hI.schemesForKey_eq]
    by_cases hsame : c.toFlags = (I.getCommitments m k).toFlags
    · -- the same schemes are overwritten, so the new commitments are read back
      simp only [hsame, ne_eq, not_true_eq_false, if_false, if_true, Except.toOption, Option.map_some,
        hI.getCommitments_setAll, PerCommitmentScheme.or_eq_self_of_toFlags (Or.inl hsame.symm)]
    · simp [Ne.symm hsame, hsame, Except.toOption]
  | deleteCommitments k =>
    simp [apply, RefCommitmentMap.apply, hI.getCommitments_deleteCommitments]

theorem run_view (hI : I.Lawful) (m : M) (calls : List (CommitmentMapCall K V)) :
    I.getCommitments (I.run m calls) = RefCommitmentMap.run (I.getCommitments m) calls := by
  induction calls generalizing m with
  | nil => rfl
  | cons call calls ih =>
    -- both sides take the call, or both reject it
    have hview := hI.apply_view m call
    have hstep : I.getCommitments ((I.apply m call).getD m) =
        (RefCommitmentMap.apply (I.getCommitments m) call).getD (I.getCommitments m) := by
      cases happ : I.apply m call with
      | some m' =>
        rw [happ, Option.map_some] at hview
        rw [← hview]
        rfl
      | none =>
        rw [happ, Option.map_none] at hview
        rw [← hview]
        rfl
    calc I.getCommitments (I.run m (call :: calls))
        = I.getCommitments (I.run ((I.apply m call).getD m) calls) := rfl
      _ = RefCommitmentMap.run (I.getCommitments ((I.apply m call).getD m)) calls := ih _
      _ = RefCommitmentMap.run ((RefCommitmentMap.apply (I.getCommitments m) call).getD (I.getCommitments m)) calls := by
        rw [hstep]
      _ = RefCommitmentMap.run (I.getCommitments m) (call :: calls) := rfl

theorem refines (hI : I.Lawful) : I.Refines where
  schemesForKey_eq := hI.schemesForKey_eq
  apply_view := hI.apply_view
  frame m call m' k h hk := by
    have hview := hI.apply_view m call
    rw [h, Option.map_some] at hview
    exact RefCommitmentMap.apply_of_ne hview.symm hk
  run_view := hI.run_view

end Lawful

end CommitmentMapImplementor

/-! ## The two implementors -/

section Implementors

variable {K : Type} [DecidableEq K] {V : CommitmentScheme → Type} {C : Type}

@[simp] theorem getCommitments_memoryCommitmentMap (m : MemoryCommitmentMap K V) (k : K) :
    (memoryCommitmentMap K V).getCommitments m k = ⟨m.hyperKzgMap.lookup k, m.doryMap.lookup k⟩ := by
  unfold CommitmentMapImplementor.getCommitments
  simp only [memoryCommitmentMap, CommitmentSchemeFlags.schemes_all]
  cases m.hyperKzgMap.lookup k <;> cases m.doryMap.lookup k <;> rfl

theorem memoryCommitmentMap_lawful : (memoryCommitmentMap K V).Lawful where
  hasKeyAndScheme_eq m k s := by
    rw [getCommitments_memoryCommitmentMap]
    -- the presence test of a map and its read agree
    cases s <;> simp only [memoryCommitmentMap, PerCommitmentScheme.get] <;>
      rw [Bool.eq_iff_iff, decide_eq_true_iff, AList.lookup_isSome]
  getCommitments_set m k a := by
    funext k'
    rw [getCommitments_memoryCommitmentMap]
    by_cases hk : k' = k
    · subst hk
      rw [Function.update_self, getCommitments_memoryCommitmentMap]
      cases a <;> simp [memoryCommitmentMap, PerCommitmentScheme.setAny]
    · rw [Function.update_of_ne hk, getCommitments_memoryCommitmentMap]
      cases a <;> simp [memoryCommitmentMap, AList.lookup_insert_ne hk]
  getCommitments_delete m k s := by
    funext k'
    rw [getCommitments_memoryCommitmentMap]
    by_cases hk : k' = k
    · subst hk
      rw [Function.update_self, getCommitments_memoryCommitmentMap]
      cases s <;> simp [memoryCommitmentMap, PerCommitmentScheme.erase]
    · rw [Function.update_of_ne hk, getCommitments_memoryCommitmentMap]
      cases s <;> simp [memoryCommitmentMap, AList.lookup_erase_ne hk]

@[simp] theorem getCommitments_commitmentStorageMapHandler (m : CommitmentStorageMap C) (k : TableIdentifier) :
    (commitmentStorageMapHandler C).getCommitments m k = ⟨m.lookup (k, .HyperKzg), m.lookup (k, .DynamicDory)⟩ := by
  unfold CommitmentMapImplementor.getCommitments
  simp only [commitmentStorageMapHandler, CommitmentSchemeFlags.schemes_all, List.filterMap_cons, List.filterMap_nil]
  cases m.lookup (k, .HyperKzg) <;> cases m.lookup (k, .DynamicDory) <;> rfl

theorem commitmentStorageMapHandler_lawful : (commitmentStorageMapHandler C).Lawful where
  hasKeyAndScheme_eq m k s := by
    rw [getCommitments_commitmentStorageMapHandler]
    -- the presence test of a map and its read agree
    cases s <;> simp only [commitmentStorageMapHandler, PerCommitmentScheme.get] <;>
      rw [Bool.eq_iff_iff, decide_eq_true_iff, AList.lookup_isSome]
  getCommitments_set m k a := by
    funext k'
    rw [getCommitments_commitmentStorageMapHandler]
    by_cases hk : k' = k
    · subst hk
      rw [Function.update_self, getCommitments_commitmentStorageMapHandler]
      cases a <;> simp [commitmentStorageMapHandler, PerCommitmentScheme.setAny, AnyCommitmentScheme.toScheme,
        AnyCommitmentScheme.unwrap]
    · -- the written entry has another first key
      have hne : ∀ s s' : CommitmentScheme, (k', s) ≠ (k, s') := fun _ _ h => hk (Prod.mk.inj h).1
      rw [Function.update_of_ne hk, getCommitments_commitmentStorageMapHandler]
      cases a <;> simp [commitmentStorageMapHandler, AnyCommitmentScheme.toScheme, AList.lookup_insert_ne (hne _ _)]
  getCommitments_delete m k s := by
    funext k'
    rw [getCommitments_commitmentStorageMapHandler]
    by_cases hk : k' = k
    · subst hk
      rw [Function.update_self, getCommitments_commitmentStorageMapHandler]
      cases s <;> simp [commitmentStorageMapHandler, PerCommitmentScheme.erase, AList.lookup_erase_ne]
    · have hne : ∀ s s' : CommitmentScheme, (k', s) ≠ (k, s') := fun _ _ h => hk (Prod.mk.inj h).1
      rw [Function.update_of_ne hk, getCommitments_commitmentStorageMapHandler]
      cases s <;> simp [commitmentStorageMapHandler, AList.lookup_erase_ne (hne _ _)]

end Implementors

/-- Both commitment maps of the crate, the in-memory one and the storage handler of the
commitments pallet, refine the reference map. -/
theorem commitmentMaps_refine_reference :
    (∀ (K : Type) [DecidableEq K] (V : CommitmentScheme → Type), (memoryCommitmentMap K V).Refines) ∧
    ∀ C : Type, (commitmentStorageMapHandler C).Refines :=
  ⟨fun _ _ _ => memoryCommitmentMap_lawful.refines, fun _ => commitmentStorageMapHandler_lawful.refines⟩

end SxtNode
