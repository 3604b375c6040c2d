import SxtNode.Analysis.CommitmentQueries
import SxtNode.Model.Dispatch
import SxtNode.Analysis.TableRegistry
import SxtNode.Analysis.Attestations

/-!
# The commitment schemes of a table, over any run of the runtime

The commitments pallet creates a table's commitments whole, and only for a table that has none
(`create_commitments`); the tables and smart-contracts pallets remove them whole, by dropping a
table or clearing every table; and an insert replaces them only with commitments of the same
schemes (`update_commitments`, whose failure aborts the call). So no extrinsic of the runtime
changes the schemes of a table's commitments other than from none or to none
(`runtimeStep_changesThrough`), and by the library's run rule, over every interleaving of the
runtime's extrinsics, a table ends with the schemes it started with unless it had no commitment
at some state of the run (`schemesForKey_of_run`). The commitments API therefore answers for a
list of tables under the scheme it answered under before, or one of the tables had no
commitment in between (`commitmentsApi_scheme_of_run`). An extrinsic of the indexing pallet
changes the commitments as the reference commitment map's update of its own table does
(`Indexing.Call.run_commitments`).
-/

set_option autoImplicit false

namespace SxtNode

variable {C : Type}

namespace CommitmentStorageMap

/-- Every table keeps its schemes, or had none before: commitments are created for tables without
any. -/
def AddsTables (m m' : CommitmentStorageMap C) : Prop :=
  ∀ k, (commitmentStorageMapHandler C).schemesForKey m' k = (commitmentStorageMapHandler C).schemesForKey m k ∨
    (commitmentStorageMapHandler C).schemesForKey m k = default

/-- Every table keeps its schemes, or has none after: commitments are removed whole. -/
def DropsTables (m m' : CommitmentStorageMap C) : Prop :=
  ∀ k, (commitmentStorageMapHandler C).schemesForKey m' k = (commitmentStorageMapHandler C).schemesForKey m k ∨
    (commitmentStorageMapHandler C).schemesForKey m' k = default

variable {m m₁ m₂ m₃ m' : CommitmentStorageMap C}

theorem AddsTables.of_eq (h : m' = m) : AddsTables m m' :=
  fun _ => .inl (by rw [h])

theorem AddsTables.trans (h₁ : AddsTables m₁ m₂) (h₂ : AddsTables m₂ m₃) : AddsTables m₁ m₃ := by
  intro k
  rcases h₁ k with h₁ | h₁
  · rcases h₂ k with h₂ | h₂
    · exact .inl (h₂.trans h₁)
    · exact .inr (h₁.symm.trans h₂)
  · exact .inr h₁

theorem DropsTables.trans (h₁ : DropsTables m₁ m₂) (h₂ : DropsTables m₂ m₃) : DropsTables m₁ m₃ := by
  intro k
  rcases h₂ k with h₂ | h₂
  · rcases h₁ k with h₁ | h₁
    · exact .inl (h₂.trans h₁)
    · exact .inr (h₂.trans h₁)
  · exact .inr h₂

/-- `create_commitments` adds a table that had no commitment. -/
theorem addsTables_createCommitments {k : TableIdentifier} {c : PerCommitmentScheme (fun _ => Option C)}
    (h : (commitmentStorageMapHandler C).createCommitments m k c = .ok m') : AddsTables m m' := by
  unfold CommitmentMapImplementor.createCommitments at h
  split at h
  · cases h
  · rename_i hnew
    cases h
    intro k'
    by_cases hk : k' = k
    · -- the table was new: its flags were empty
      subst hk
      have hkey := commitmentStorageMapHandler_lawful.hasKey_eq m k'
      rw [← commitmentStorageMapHandler_lawful.schemesForKey_eq] at hkey
      exact .inr (of_decide_eq_true (by simpa [hkey] using hnew))
    · refine .inl (schemesForKey_eq_iff.mpr fun x => ?_)
      simp [mem_setAll, hk]

/-- `update_commitments` keeps the schemes of every table: it writes under the schemes the
table has. -/
theorem schemesForKey_updateCommitments {k : TableIdentifier} {c : PerCommitmentScheme (fun _ => Option C)}
    (h : (commitmentStorageMapHandler C).updateCommitments m k c = .ok m') (k' : TableIdentifier) :
    (commitmentStorageMapHandler C).schemesForKey m' k' = (commitmentStorageMapHandler C).schemesForKey m k' := by
  unfold CommitmentMapImplementor.updateCommitments at h
  dsimp only at h
  split at h
  · cases h
  · rename_i hsame
    cases h
    have hflags : (commitmentStorageMapHandler C).schemesForKey m k = c.toFlags := not_not.mp hsame
    refine schemesForKey_eq_iff.mpr fun x => ?_
    rw [mem_setAll]
    constructor
    · rintro (hx | ⟨hk, hx⟩)
      · exact hx
      · -- a scheme written under `k` is one of its schemes
        simp only at hk
        subst hk
        exact (has_schemesForKey m k' x).mp (hflags ▸ hx)
    · exact .inl

theorem dropsTables_removePrefix (m : CommitmentStorageMap C) (k : TableIdentifier) :
    DropsTables m (m.removePrefix k) := by
  intro k'
  by_cases hk : k' = k
  · exact .inr (schemesForKey_eq_default_iff.mpr fun x hx => (StorageMap.mem_removePrefix.mp hx).1 hk)
  · refine .inl (schemesForKey_eq_iff.mpr fun x => ?_)
    simp [StorageMap.mem_removePrefix, hk]

theorem dropsTables_empty (m : CommitmentStorageMap C) : DropsTables m ∅ :=
  fun _ => .inr (schemesForKey_eq_default_iff.mpr fun _ hx => by simp at hx)

end CommitmentStorageMap

open CommitmentStorageMap

variable {Acc : Type} [LinearOrder Acc] {H : Type}

/-! ## The tables pallet -/

namespace Tables

variable (ddl : DdlEnv) (env : Env C H) {s s' : Runtime Acc H C}

theorem commitmentStorageMap_eq_of_outsideRegistry (h : outsideRegistry s' = outsideRegistry s) :
    s'.commitmentStorageMap = s.commitmentStorageMap :=
  (congrArg Runtime.commitmentStorageMap h :)

theorem initiateCommitments_addsTables {table : UpdateTable} {createTable : CreateTableBuilder}
    {md : CreateTableAndCommitmentMetadata} (h : initiateCommitments env table createTable s = .ok (md, s')) :
    AddsTables s.commitmentStorageMap s'.commitmentStorageMap := by
  unfold initiateCommitments at h
  -- both commands have the commitments pallet create the table's commitments
  split at h
  · simp only [Fallible.bind_eq_ok] at h
    obtain ⟨⟨md₀, m⟩, hp, h⟩ := h
    cases h
    obtain ⟨-, ident, cs, -, -, hcreate⟩ :=
      processCreateTableAndInitiateCommitmentsWithScheme_ok env.native env.posql (Fallible.mapErr_eq_ok.mp hp)
    exact addsTables_createCommitments hcreate
  · simp only [Fallible.bind_eq_ok] at h
    obtain ⟨⟨md₀, m⟩, hp, h⟩ := h
    cases h
    obtain ⟨-, ident, cs, -, -, hcreate⟩ :=
      processCreateTableFromSnapshotAndInitiateCommitments_ok env.native env.posql (Fallible.mapErr_eq_ok.mp hp)
    exact addsTables_createCommitments hcreate

theorem createTable_addsTables {table t' : UpdateTable} (h : createTable ddl env table s = .ok (t', s')) :
    AddsTables s.commitmentStorageMap s'.commitmentStorageMap := by
  obtain ⟨tu, cu, stmt, b, opts, md, -, -, hinit⟩ := createTable_ok ddl env h
  exact (initiateCommitments_addsTables env hinit :)

theorem createTablesInner_addsTables {origin : Origin Acc} {tables : UpdateTableList}
    (h : createTablesInner ddl env origin tables s = .ok s') :
    AddsTables s.commitmentStorageMap s'.commitmentStorageMap := by
  unfold createTablesInner at h
  simp only [Fallible.bind_eq_ok] at h
  obtain ⟨owner, -, ⟨created, s₁⟩, hmap, h⟩ := h
  cases h
  exact (Fallible.mapState_preserves (fun s₁ : Runtime Acc H C => AddsTables s.commitmentStorageMap s₁.commitmentStorageMap)
    (fun _ _ _ _ hs hf => hs.trans (createTable_addsTables ddl env hf)) hmap (AddsTables.of_eq rfl) :)

theorem insertInitialCommitment_addsTables {ident : TableIdentifier} {statement stmt' : CreateStatement}
    {commit : Commitments TableCommitmentBytes} {snapshot : SnapshotUrl}
    (h : insertInitialCommitment ddl env ident statement commit snapshot s = .ok (stmt', s')) :
    AddsTables s.commitmentStorageMap s'.commitmentStorageMap := by
  unfold insertInitialCommitment at h
  simp only [Fallible.bind_eq_ok] at h
  obtain ⟨b, -, ⟨md, m⟩, hp, printed, -, h⟩ := h
  cases h
  obtain ⟨-, ident', cs, -, -, hcreate⟩ :=
    processCreateTableFromSnapshotAndInitiateCommitments_ok env.native env.posql (Fallible.mapErr_eq_ok.mp hp)
  exact addsTables_createCommitments hcreate

theorem createTablesWithSnapshotAndCommitment_addsTables {origin : Origin Acc} {sourceAndMode : SourceAndMode}
    {tables : CreateTableList} (h : createTablesWithSnapshotAndCommitment ddl env origin sourceAndMode tables s = .ok s') :
    AddsTables s.commitmentStorageMap s'.commitmentStorageMap := by
  unfold createTablesWithSnapshotAndCommitment at h
  simp only [Fallible.bind_eq_ok] at h
  obtain ⟨owner, -, ⟨created, s₁⟩, hmap, h⟩ := h
  cases h
  refine (Fallible.mapState_preserves
    (fun s₁ : Runtime Acc H C => AddsTables s.commitmentStorageMap s₁.commitmentStorageMap)
    (fun _ _ _ _ hs hf => hs.trans ?_) hmap (AddsTables.of_eq rfl) :)
  -- one table: its schema is stored, then its snapshot's commitments are created
  unfold createTableWithCommitment at hf
  simp only [Fallible.bind_eq_ok] at hf
  obtain ⟨⟨stmt', s₂⟩, hins, hf⟩ := hf
  cases hf
  exact (insertInitialCommitment_addsTables ddl env hins :)

theorem clearTables_commitmentStorageMap {origin : Origin Acc} (h : clearTables origin s = .ok s') :
    s'.commitmentStorageMap = ∅ := by
  unfold clearTables at h
  simp only [Fallible.bind_eq_ok, Fallible.ensure_eq_ok] at h
  obtain ⟨-, -, -, -, -, -, -, hleft, h⟩ := h
  cases h
  exact StorageMap.clear_of_not_more (Prod.ext rfl (by simpa using hleft))

theorem dropTable_commitmentStorageMap {origin : Origin Acc} {tableType : TableType} {ident : TableIdentifier}
    {source : Source} (h : dropTable origin tableType ident source s = .ok s') :
    s'.commitmentStorageMap = s.commitmentStorageMap.removePrefix ident := by
  unfold dropTable at h
  simp only [Fallible.bind_eq_ok] at h
  obtain ⟨owner, -, s₁, hdrop, h⟩ := h
  cases h
  exact congrArg (StorageMap.removePrefix · ident)
    (commitmentStorageMap_eq_of_outsideRegistry (dropSingleTable_outsideRegistry hdrop))

/-- An extrinsic of the tables pallet adds tables' commitments, or removes them whole. -/
theorem Call.run_addsOrDrops {origin : Origin Acc} {c : Call} (h : c.run ddl env origin s = .ok s') :
    AddsTables s.commitmentStorageMap s'.commitmentStorageMap ∨
      DropsTables s.commitmentStorageMap s'.commitmentStorageMap := by
  cases c with
  | createTables tables => exact .inl (createTablesInner_addsTables ddl env h)
  | createTablesWithSnapshotAndCommitment sourceAndMode tables =>
    exact .inl (createTablesWithSnapshotAndCommitment_addsTables ddl env h)
  | clearTables =>
    rw [clearTables_commitmentStorageMap h]
    exact .inr (dropsTables_empty _)
  | createNamespace schemaName version createStatement tableType source =>
    exact .inl (AddsTables.of_eq (commitmentStorageMap_eq_of_outsideRegistry (createNamespace_outsideRegistry ddl h)))
  | dropTable tableType ident source =>
    rw [dropTable_commitmentStorageMap h]
    exact .inr (dropsTables_removePrefix _ ident)
  | dropInvalidCommits ident =>
    obtain ⟨-, -, h⟩ := Fallible.bind_eq_ok.mp h
    cases h
    exact .inr (dropsTables_removePrefix _ ident)
  | updateNamespaceUuid namespace_ version newUuid =>
    exact .inl (AddsTables.of_eq (commitmentStorageMap_eq_of_outsideRegistry (updateNamespaceUuid_outsideRegistry h)))
  | updateTableUuid table version newUuid =>
    exact .inl (AddsTables.of_eq (commitmentStorageMap_eq_of_outsideRegistry (updateTableUuid_outsideRegistry ddl h)))

end Tables

/-! ## The smart-contracts pallet -/

namespace SmartContracts

variable (ddl : DdlEnv) (env : Env C H) {s s' : Runtime Acc H C}

theorem dropContractTables_dropsTables {l : List (TableIdentifier × TableType)} (h : dropContractTables l s = .ok s') :
    DropsTables s.commitmentStorageMap s'.commitmentStorageMap := by
  induction l generalizing s with
  | nil =>
    cases h
    exact fun _ => .inl rfl
  | cons e rest ih =>
    simp only [dropContractTables, Fallible.bind_eq_ok] at h
    obtain ⟨s₁, hdrop, h⟩ := h
    -- the first table's commitments are removed, then the rest's
    have hfirst : s₁.commitmentStorageMap = s.commitmentStorageMap :=
      Tables.commitmentStorageMap_eq_of_outsideRegistry (Tables.dropSingleTable_outsideRegistry hdrop)
    rw [← hfirst]
    exact (dropsTables_removePrefix s₁.commitmentStorageMap e.1).trans (ih h)

@[simp] theorem recordStartingBlock_commitmentStorageMap (s : Runtime Acc H C)
    (tableIds : List (TableIdentifier × TableType)) (o : Option UInt64) :
    (recordStartingBlock s tableIds o).commitmentStorageMap = s.commitmentStorageMap := by
  cases o <;> rfl

theorem removeSmartcontract_dropsTables {origin : Origin Acc} {source : Source} {address : ContractAddress}
    (h : removeSmartcontract origin source address s = .ok s') :
    DropsTables s.commitmentStorageMap s'.commitmentStorageMap := by
  unfold removeSmartcontract at h
  simp only [Fallible.bind_eq_ok] at h
  obtain ⟨owner, -, h⟩ := h
  -- the contract's recorded tables, if any, are dropped
  split at h
  · simp only [Fallible.bind_eq_ok] at h
    obtain ⟨s₁, hdrop, h⟩ := h
    cases h
    exact (dropContractTables_dropsTables hdrop :)
  · simp only [Fallible.bind_eq_ok] at h
    obtain ⟨s₁, hs₁, h⟩ := h
    cases hs₁
    cases h
    exact fun _ => .inl rfl

theorem addSmartcontract_addsTables {origin : Origin Acc} {contract : Contract} {tables : UpdateTableList}
    (h : addSmartcontract ddl env origin contract tables s = .ok s') :
    AddsTables s.commitmentStorageMap s'.commitmentStorageMap := by
  unfold addSmartcontract at h
  simp only [Fallible.bind_eq_ok] at h
  obtain ⟨owner, -, -, -, tableIds, -, targetSchema, -, ddlStatement, -, s₁, hns, h⟩ := h
  -- the namespace is created without commitments, then the tables with theirs
  have hns' : s₁.commitmentStorageMap = s.commitmentStorageMap :=
    (Tables.commitmentStorageMap_eq_of_outsideRegistry (Tables.createNamespace_outsideRegistry ddl hns)).trans
      (recordStartingBlock_commitmentStorageMap _ _ _)
  exact (AddsTables.of_eq hns').trans (Tables.createTablesInner_addsTables ddl env h :)

theorem PalletCall.run_addsOrDrops {origin : Origin Acc} {c : PalletCall} (h : c.run ddl env origin s = .ok s') :
    AddsTables s.commitmentStorageMap s'.commitmentStorageMap ∨
      DropsTables s.commitmentStorageMap s'.commitmentStorageMap := by
  cases c with
  | removeSmartcontract source address => exact .inr (removeSmartcontract_dropsTables h)
  | addSmartcontract contract tables => exact .inl (addSmartcontract_addsTables ddl env h)

end SmartContracts

/-! ## The indexing pallet -/

namespace Indexing

variable [DecidableEq H] (env : Env C H) {s s' : Runtime Acc H C}

omit [DecidableEq H] in
@[simp] theorem recordBlockNumber_commitmentStorageMap (s : Runtime Acc H C) (t : TableIdentifier) (o : Option UInt64) :
    (recordBlockNumber s t o).commitmentStorageMap = s.commitmentStorageMap := by
  cases o <;> rfl

omit [DecidableEq H] in
/-- `finalize_quorum` stores what the insert of the decided data made of the commitments. -/
theorem finalizeQuorum_commitments {quorum : DataQuorum Acc H} {d : RowData} {bn : Option UInt64}
    (h : finalizeQuorum env quorum d bn s = .ok s') :
    ∃ ocTable md, processInsertAndUpdateCommitments env.native env.posql quorum.table ocTable s.commitmentStorageMap =
      .ok (md, s'.commitmentStorageMap) := by
  unfold finalizeQuorum at h
  simp only [Fallible.bind_eq_ok] at h
  obtain ⟨tableBytes, -, ocTable, -, ⟨metadata, commitments⟩, hp, data, -, h⟩ := h
  cases h
  refine ⟨ocTable, metadata, ?_⟩
  simpa [deposit, recordDecision] using Fallible.mapErr_eq_ok.mp hp

/-- Counting a submission leaves the commitments alone, and a decision it returns is for the
call's table. -/
theorem countInScope_commitments {c : Bool} {who : Acc} {b : BatchId} {hash : H} {t : TableIdentifier}
    {tiq : InsertQuorumSize} {q : QuorumScope} {r : Option (DataQuorum Acc H)}
    (h : countInScope c who b hash t tiq q s = .ok (r, s')) :
    s'.commitmentStorageMap = s.commitmentStorageMap ∧ ∀ dq, r = some dq → dq.table = t := by
  rcases countInScope_ok h with ⟨rfl, rfl⟩ | ⟨rfl, hdq⟩
  · exact ⟨rfl, fun dq hdq => by cases hdq⟩
  · exact ⟨rfl, fun dq hr => by rw [(hdq dq hr).1]⟩

/-- An extrinsic of the indexing pallet leaves the commitments as they are, or changes them as the
reference commitment map's update of its own table, with commitments of the schemes the table has,
does. -/
theorem Call.run_commitments {origin : Origin Acc} {c : Call} (h : c.run env origin s = .ok s') :
    s'.commitmentStorageMap = s.commitmentStorageMap ∨
      ∃ cs, RefCommitmentMap.apply ((commitmentStorageMapHandler C).getCommitments s.commitmentStorageMap)
        (.updateCommitments c.table cs) = some ((commitmentStorageMapHandler C).getCommitments s'.commitmentStorageMap) := by
  obtain ⟨d, bn, hrun⟩ := c.run_eq env origin
  rw [hrun] at h
  obtain ⟨who, -, -, r₁, s₁, r₂, s₂, h₁, h₂, hlast⟩ := submitDataInner_ok env h
  obtain ⟨hs₁, hr₁⟩ := countInScope_commitments h₁
  obtain ⟨hs₂, hr₂⟩ := countInScope_commitments h₂
  rcases hlast with ⟨-, rfl⟩ | ⟨dq, hdq, hfinal⟩
  · exact .inl (hs₂.trans hs₁)
  · -- the decision is for the call's table, and its insert updates that table's commitments
    have htable : dq.table = c.table := by
      cases hr : r₁ with
      | some dq₁ =>
        rw [hr, Option.some_or] at hdq
        cases hdq
        exact hr₁ _ hr
      | none =>
        rw [hr, Option.none_or] at hdq
        exact hr₂ _ hdq
    obtain ⟨ocTable, md, hinsert⟩ := finalizeQuorum_commitments env hfinal
    obtain ⟨-, -, cs, -, hupdate⟩ := processInsertAndUpdateCommitments_ok env.native env.posql hinsert
    have hview := commitmentStorageMapHandler_lawful.apply_view s₂.commitmentStorageMap (.updateCommitments dq.table cs)
    simp only [CommitmentMapImplementor.apply, hupdate, Except.toOption, Option.map_some] at hview
    rw [hs₂.trans hs₁, htable] at hview
    exact .inr ⟨cs, hview.symm⟩

/-- In `crossTableRun`, account 2's submission decides the batch for `tableA` and updates
`tableA`'s commitments. -/
theorem crossTableRun_updates_tableA :
    ∃ cs, RefCommitmentMap.apply
      ((commitmentStorageMapHandler MetaCommitment).getCommitments
        (dispatch ((Call.submitData tableB sampleBatch rowsOne).run sampleEnv (.Signed 1))
          (sampleState crossPerms)).commitmentStorageMap)
      (.updateCommitments tableA cs) =
        some ((commitmentStorageMapHandler MetaCommitment).getCommitments crossTableRun.commitmentStorageMap) := by
  have hrun : (Call.submitData tableA sampleBatch rowsOne).run sampleEnv (.Signed 2)
      (dispatch ((Call.submitData tableB sampleBatch rowsOne).run sampleEnv (.Signed 1)) (sampleState crossPerms)) =
        .ok crossTableRun := eq_ok_dispatch (by decide)
  have hlookup : crossTableRun.commitmentStorageMap.lookup (tableA, .DynamicDory) ≠
      (dispatch ((Call.submitData tableB sampleBatch rowsOne).run sampleEnv (.Signed 1))
        (sampleState crossPerms)).commitmentStorageMap.lookup (tableA, .DynamicDory) := by decide
  have hchanged : crossTableRun.commitmentStorageMap ≠
      (dispatch ((Call.submitData tableB sampleBatch rowsOne).run sampleEnv (.Signed 1))
        (sampleState crossPerms)).commitmentStorageMap := fun h => hlookup (by rw [h])
  rcases Call.run_commitments sampleEnv hrun with hsame | hupdate
  · exact absurd hsame hchanged
  · exact hupdate

/-- No extrinsic of the indexing pallet changes the schemes of any table's commitments. -/
theorem Call.run_schemesForKey {origin : Origin Acc} {c : Call} (h : c.run env origin s = .ok s') (k : TableIdentifier) :
    (commitmentStorageMapHandler C).schemesForKey s'.commitmentStorageMap k =
      (commitmentStorageMapHandler C).schemesForKey s.commitmentStorageMap k := by
  obtain ⟨d, bn, hrun⟩ := c.run_eq env origin
  rw [hrun] at h
  obtain ⟨who, -, -, r₁, s₁, r₂, s₂, h₁, h₂, hlast⟩ := submitDataInner_ok env h
  have hs₂ : s₂.commitmentStorageMap = s.commitmentStorageMap :=
    (countInScope_commitments h₂).1.trans (countInScope_commitments h₁).1
  rcases hlast with ⟨-, rfl⟩ | ⟨dq, -, hfinal⟩
  · rw [hs₂]
  · obtain ⟨ocTable, md, hinsert⟩ := finalizeQuorum_commitments env hfinal
    obtain ⟨-, -, cs, -, hupdate⟩ := processInsertAndUpdateCommitments_ok env.native env.posql hinsert
    rw [schemesForKey_updateCommitments hupdate k, hs₂]

end Indexing

/-! ## The runtime -/

/-- The schemes of table `k`'s commitments in a state of the runtime. -/
abbrev schemesOf (k : TableIdentifier) (s : Runtime Acc H C) : CommitmentSchemeFlags :=
  (commitmentStorageMapHandler C).schemesForKey s.commitmentStorageMap k

theorem CommitmentStorageMap.AddsTables.changesThrough {s s' : Runtime Acc H C}
    (h : AddsTables s.commitmentStorageMap s'.commitmentStorageMap) (k : TableIdentifier) :
    ChangesThrough (schemesOf k) default s s' :=
  (h k).imp_right .inl

theorem CommitmentStorageMap.DropsTables.changesThrough {s s' : Runtime Acc H C}
    (h : DropsTables s.commitmentStorageMap s'.commitmentStorageMap) (k : TableIdentifier) :
    ChangesThrough (schemesOf k) default s s' :=
  (h k).imp_right .inr

section Runtime

variable [DecidableEq H] (ddl : DdlEnv) (env : Env C H) (kenv : KeystoreEnv Acc)

/-- Every extrinsic of the runtime changes a table's schemes from none or to none only. -/
theorem runtimeStep_changesThrough {admits : Origin Acc → Prop} {s s' : Runtime Acc H C}
    (h : RuntimeStep ddl env kenv admits s s') (k : TableIdentifier) :
    ChangesThrough (schemesOf k) default s s' := by
  cases h with
  | permissions origin hadmits c => exact .inl rfl
  | call origin c =>
    -- a failed extrinsic is rolled back; a successful one is one of its pallet's
    cases hrun : c.run ddl env kenv origin s with
    | error e =>
      rw [dispatch_of_error hrun]
      exact .inl rfl
    | ok s' =>
      rw [dispatch_of_ok hrun]
      cases c with
      | Tables c =>
        rcases Tables.Call.run_addsOrDrops ddl env hrun with hadd | hdrop
        · exact AddsTables.changesThrough hadd k
        · exact DropsTables.changesThrough hdrop k
      | Indexing c => exact .inl (Indexing.Call.run_schemesForKey env hrun k)
      | Smartcontracts c =>
        rcases SmartContracts.PalletCall.run_addsOrDrops ddl env hrun with hadd | hdrop
        · exact AddsTables.changesThrough hadd k
        · exact DropsTables.changesThrough hdrop k
      | Attestations c =>
        exact .inl (congrArg (schemesOf k) (AttestationPallet.Call.run_outsideOwn kenv hrun) :)

/-- Over any run of the runtime, a table ends with the schemes of commitments it started with,
unless it had no commitment at some state of the run. -/
theorem schemesForKey_of_run {admits : Origin Acc → Prop} {s₀ s : Runtime Acc H C}
    (hrun : Relation.ReflTransGen (RuntimeStep ddl env kenv admits) s₀ s) (k : TableIdentifier) :
    (commitmentStorageMapHandler C).schemesForKey s.commitmentStorageMap k =
        (commitmentStorageMapHandler C).schemesForKey s₀.commitmentStorageMap k ∨
      ∃ s₁, Relation.ReflTransGen (RuntimeStep ddl env kenv admits) s₀ s₁ ∧
        Relation.ReflTransGen (RuntimeStep ddl env kenv admits) s₁ s ∧
        ∀ x, (k, x) ∉ s₁.commitmentStorageMap := by
  rcases ChangesThrough.run (fun _ _ h => runtimeStep_changesThrough ddl env kenv h k) hrun with hsame | ⟨s₁, h₀₁, h₁, hblank⟩
  · exact .inl hsame
  · exact .inr ⟨s₁, h₀₁, h₁, schemesForKey_eq_default_iff.mp hblank⟩

/-- Over any run of the runtime, the commitments API answers for a list of tables under the
scheme it answered under at the start, or not at all if it did not, unless one of the tables
had no commitment at some state of the run. -/
theorem commitmentsApi_scheme_of_run {admits : Origin Acc → Prop} {s₀ s : Runtime Acc H C}
    (hrun : Relation.ReflTransGen (RuntimeStep ddl env kenv admits) s₀ s)
    (tableIdentifiers : CommitmentsApiBoundedTableIdentifiersList) :
    (CommitmentsApi.tableCommitmentsAnyScheme s tableIdentifiers).map AnyCommitmentScheme.toScheme =
        (CommitmentsApi.tableCommitmentsAnyScheme s₀ tableIdentifiers).map AnyCommitmentScheme.toScheme ∨
      ∃ t ∈ tableIdentifiers.toList, ∃ s₁, Relation.ReflTransGen (RuntimeStep ddl env kenv admits) s₀ s₁ ∧
        Relation.ReflTransGen (RuntimeStep ddl env kenv admits) s₁ s ∧ ∀ x, (t, x) ∉ s₁.commitmentStorageMap := by
  by_cases hkept : ∀ t ∈ tableIdentifiers.toList,
      (commitmentStorageMapHandler C).schemesForKey s.commitmentStorageMap t =
        (commitmentStorageMapHandler C).schemesForKey s₀.commitmentStorageMap t
  · exact .inl (toScheme_tableCommitmentsAnyScheme_congr hkept)
  · -- a listed table changed its schemes, so it had none on the way
    simp only [not_forall] at hkept
    obtain ⟨t, ht, hchanged⟩ := hkept
    rcases schemesForKey_of_run ddl env kenv hrun t with hsame | hblank
    · exact absurd hsame hchanged
    · exact .inr ⟨t, ht, hblank⟩

end Runtime

/-! ## A table created again after a clear -/

section Recreated

open Tables

/-- Root clears the tables of `doryRun`, then creates `NS.T` again with a hyper-kzg commitment. -/
def recreatedRun : Runtime ℕ (List UInt8 × Option UInt64) MetaCommitment :=
  dispatch ((RuntimeCall.Tables (.createTables (tablesNST ⟨true, false⟩))).run ddlNST Indexing.sampleEnv
    AttestationPallet.toyKeystoreEnv .Root) clearedRun

theorem recreatedRun_run :
    Relation.ReflTransGen (RuntimeStep ddlNST Indexing.sampleEnv AttestationPallet.toyKeystoreEnv (fun _ => True))
      doryRun recreatedRun :=
  (Relation.ReflTransGen.single (RuntimeStep.call .Root (.Tables .clearTables) doryRun)).tail
    (RuntimeStep.call .Root (.Tables (.createTables (tablesNST ⟨true, false⟩))) clearedRun)

theorem nstQuery_length : [identNST].length ≤ MAX_TABLES_IN_TABLE_COMMITMENTS_QUERY := by decide

/-- A query for `NS.T` alone. -/
def nstQuery : CommitmentsApiBoundedTableIdentifiersList := ⟨[identNST], nstQuery_length⟩

set_option maxRecDepth 4000 in
/-- The API answers for `NS.T` under dynamic Dory before and under hyper-kzg after, so `NS.T` had
no commitment on the way. -/
theorem recreatedRun_api_blank_between :
    ∃ t ∈ nstQuery.toList, ∃ s₁,
      Relation.ReflTransGen (RuntimeStep ddlNST Indexing.sampleEnv AttestationPallet.toyKeystoreEnv (fun _ => True))
        doryRun s₁ ∧
      Relation.ReflTransGen (RuntimeStep ddlNST Indexing.sampleEnv AttestationPallet.toyKeystoreEnv (fun _ => True))
        s₁ recreatedRun ∧
      ∀ x, (t, x) ∉ s₁.commitmentStorageMap := by
  have hafter : (CommitmentsApi.tableCommitmentsAnyScheme recreatedRun nstQuery).map AnyCommitmentScheme.toScheme =
      some .HyperKzg := by decide
  have hbefore : (CommitmentsApi.tableCommitmentsAnyScheme doryRun nstQuery).map AnyCommitmentScheme.toScheme =
      some .DynamicDory := by decide
  rcases commitmentsApi_scheme_of_run ddlNST Indexing.sampleEnv AttestationPallet.toyKeystoreEnv recreatedRun_run
    nstQuery with hsame | hblank
  · rw [hafter, hbefore] at hsame
    cases hsame
  · exact hblank

end Recreated

end SxtNode
