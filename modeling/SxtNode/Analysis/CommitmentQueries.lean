import SxtNode.Model.Commitments
import SxtNode.Analysis.CommitmentMapRefinement

/-!
# Reading the commitments of several tables

`table_commitments` reads the commitments of a list of tables under one scheme, all or nothing,
and `table_commitments_any_scheme` answers under the first scheme, hyper-kzg first, under which
every listed table has one (`map_toScheme_tableCommitmentsAnyScheme`). Whether it answers, and
under which scheme, depends on the listed tables' `schemes_for_key` only (`toScheme_tableCommitmentsAnyScheme_congr`): a write that keeps
every table's schemes may change the commitments the query returns, never their scheme.
-/

set_option autoImplicit false

namespace SxtNode

variable {C : Type}

namespace CommitmentStorageMap

/-- The storage handler's `schemes_for_key` selects the schemes the table has a commitment of. -/
theorem has_schemesForKey (m : CommitmentStorageMap C) (k : TableIdentifier) (x : CommitmentScheme) :
    ((commitmentStorageMapHandler C).schemesForKey m k).has x = true ↔ (k, x) ∈ m := by
  rw [commitmentStorageMapHandler_lawful.schemesForKey_eq, getCommitments_commitmentStorageMapHandler]
  cases x
  all_goals
    simp only [PerCommitmentScheme.toFlags, CommitmentSchemeFlags.has]
    rw [AList.lookup_isSome]

theorem schemesForKey_eq_iff {m m' : CommitmentStorageMap C} {k k' : TableIdentifier} :
    (commitmentStorageMapHandler C).schemesForKey m' k' = (commitmentStorageMapHandler C).schemesForKey m k ↔
      ∀ x, (k', x) ∈ m' ↔ (k, x) ∈ m := by
  rw [CommitmentSchemeFlags.eq_iff_has]
  exact forall_congr' fun x => by rw [Bool.eq_iff_iff, has_schemesForKey, has_schemesForKey]

theorem schemesForKey_eq_default_iff {m : CommitmentStorageMap C} {k : TableIdentifier} :
    (commitmentStorageMapHandler C).schemesForKey m k = default ↔ ∀ x, (k, x) ∉ m := by
  rw [CommitmentSchemeFlags.eq_iff_has]
  simp only [CommitmentSchemeFlags.has_default, ← Bool.not_eq_true, has_schemesForKey]

end CommitmentStorageMap

section Queries

variable {m m' : CommitmentStorageMap C} {ts : List TableIdentifier}

theorem isSome_tableCommitments {x : CommitmentScheme} :
    (tableCommitments m ts x).isSome ↔ ∀ t ∈ ts, (t, x) ∈ m :=
  StorageMap.isSome_mapM_lookup

/-- The query tries hyper-kzg, then dynamic dory. -/
theorem tableCommitmentsAnyScheme_eq (m : CommitmentStorageMap C) (ts : List TableIdentifier) :
    tableCommitmentsAnyScheme m ts =
      ((tableCommitments m ts .HyperKzg).map CommitmentScheme.HyperKzg.intoAnyConcrete).or
        ((tableCommitments m ts .DynamicDory).map CommitmentScheme.DynamicDory.intoAnyConcrete) := by
  unfold tableCommitmentsAnyScheme
  rw [CommitmentSchemeFlags.schemes_all, List.findSome?_cons, List.findSome?_cons, List.findSome?_nil]
  cases tableCommitments m ts .HyperKzg <;> cases tableCommitments m ts .DynamicDory <;> rfl

/-- The scheme the query answers under: the first that covers every listed table. -/
theorem map_toScheme_tableCommitmentsAnyScheme (m : CommitmentStorageMap C) (ts : List TableIdentifier) :
    (tableCommitmentsAnyScheme m ts).map AnyCommitmentScheme.toScheme =
      CommitmentSchemeFlags.all.schemes.find? fun x => (tableCommitments m ts x).isSome := by
  rw [tableCommitmentsAnyScheme_eq, CommitmentSchemeFlags.schemes_all, List.find?_cons, List.find?_cons,
    List.find?_nil]
  cases tableCommitments m ts .HyperKzg <;> cases tableCommitments m ts .DynamicDory <;> rfl

/-- Whether the query answers, and under which scheme, depends on the listed tables' schemes
only. -/
theorem toScheme_tableCommitmentsAnyScheme_congr
    (h : ∀ t ∈ ts, (commitmentStorageMapHandler C).schemesForKey m' t = (commitmentStorageMapHandler C).schemesForKey m t) :
    (tableCommitmentsAnyScheme m' ts).map AnyCommitmentScheme.toScheme =
      (tableCommitmentsAnyScheme m ts).map AnyCommitmentScheme.toScheme := by
  have hcover : ∀ x, (tableCommitments m' ts x).isSome = (tableCommitments m ts x).isSome := by
    intro x
    rw [Bool.eq_iff_iff, isSome_tableCommitments, isSome_tableCommitments]
    exact forall₂_congr fun t ht => CommitmentStorageMap.schemesForKey_eq_iff.mp (h t ht) x
  simp only [map_toScheme_tableCommitmentsAnyScheme, hcover]

end Queries

end SxtNode
