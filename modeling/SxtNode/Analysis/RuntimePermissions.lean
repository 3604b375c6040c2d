import SxtNode.Model.Dispatch
import SxtNode.Analysis.PermissionGrants
import SxtNode.Analysis.IndexingVotes
import SxtNode.Analysis.TableRegistry
import SxtNode.Analysis.Attestations

/-!
# Who can come to hold a permission, over the whole runtime

Every pallet checks its callers against the permissions pallet's storage, and only the
permissions pallet writes it: no extrinsic of the tables, indexing, smart-contracts, keystore or
attestation pallets changes the runtime's `permissions` (`RuntimeCall.run_permissions`, built
from one frame lemma per function of those pallets). With the permissions pallet's own step
lemma, `PermissionsPallet.step_granted`, the library's run rule bounds what can ever be held: in
every interleaving of the runtime's extrinsics in which root dispatches none of the permissions
pallet's, a level an account holds at the end was held at the start, inside
`EditSpecificPermission` wrappers or behind an `UpdatePermissions` (`held_of_nonRoot_run`). Root
may dispatch the other pallets' extrinsics all along.
-/

set_option autoImplicit false

namespace SxtNode

variable {Acc : Type} [LinearOrder Acc] {H C : Type}

/-! ## The tables pallet -/

namespace Tables

variable (ddl : DdlEnv) (env : Env C H) {s s' : Runtime Acc H C}

theorem insertInitialCommitment_permissions {ident : TableIdentifier} {statement stmt' : CreateStatement}
    {commit : Commitments TableCommitmentBytes} {snapshot : SnapshotUrl}
    (h : insertInitialCommitment ddl env ident statement commit snapshot s = .ok (stmt', s')) :
    s'.permissions = s.permissions := by
  unfold insertInitialCommitment at h
  simp only [Fallible.bind_eq_ok] at h
  obtain ⟨b, -, ⟨md, m⟩, -, printed, -, h⟩ := h
  cases h
  rfl

theorem initiateCommitments_permissions {table : UpdateTable} {createTable : CreateTableBuilder}
    {md : CreateTableAndCommitmentMetadata} (h : initiateCommitments env table createTable s = .ok (md, s')) :
    s'.permissions = s.permissions := by
  unfold initiateCommitments at h
  -- both commands store the commitments pallet's map; the snapshot one also stores its URL
  split at h
  all_goals
    simp only [Fallible.bind_eq_ok] at h
    obtain ⟨⟨md₀, m⟩, -, h⟩ := h
    cases h
    rfl

theorem createTable_permissions {table t' : UpdateTable} (h : createTable ddl env table s = .ok (t', s')) :
    s'.permissions = s.permissions := by
  obtain ⟨tu, cu, stmt, b, opts, md, -, -, hinit⟩ := createTable_ok ddl env h
  exact (initiateCommitments_permissions env hinit :)

theorem createTableWithCommitment_permissions {source : Source} {table t' : CreateTableRequest}
    (h : createTableWithCommitment ddl env source table s = .ok (t', s')) : s'.permissions = s.permissions := by
  unfold createTableWithCommitment at h
  simp only [Fallible.bind_eq_ok] at h
  obtain ⟨⟨stmt', s₁⟩, hins, h⟩ := h
  cases h
  exact (insertInitialCommitment_permissions ddl env hins :)

theorem createTablesInner_permissions {origin : Origin Acc} {tables : UpdateTableList}
    (h : createTablesInner ddl env origin tables s = .ok s') : s'.permissions = s.permissions := by
  unfold createTablesInner at h
  simp only [Fallible.bind_eq_ok] at h
  obtain ⟨owner, -, ⟨created, s₁⟩, hmap, h⟩ := h
  cases h
  exact (Fallible.mapState_preserves (fun s₁ : Runtime Acc H C => s₁.permissions = s.permissions)
    (fun _ _ _ _ hs hf => (createTable_permissions ddl env hf).trans hs) hmap rfl :)

theorem createTablesWithSnapshotAndCommitment_permissions {origin : Origin Acc} {sourceAndMode : SourceAndMode}
    {tables : CreateTableList} (h : createTablesWithSnapshotAndCommitment ddl env origin sourceAndMode tables s = .ok s') :
    s'.permissions = s.permissions := by
  unfold createTablesWithSnapshotAndCommitment at h
  simp only [Fallible.bind_eq_ok] at h
  obtain ⟨owner, -, ⟨created, s₁⟩, hmap, h⟩ := h
  cases h
  exact (Fallible.mapState_preserves (fun s₁ : Runtime Acc H C => s₁.permissions = s.permissions)
    (fun _ _ _ _ hs hf => (createTableWithCommitment_permissions ddl env hf).trans hs) hmap rfl :)

theorem clearTables_permissions {origin : Origin Acc} (h : clearTables origin s = .ok s') :
    s'.permissions = s.permissions := by
  unfold clearTables at h
  simp only [Fallible.bind_eq_ok] at h
  obtain ⟨-, -, -, -, -, -, -, -, h⟩ := h
  cases h
  rfl

theorem dropTable_permissions {origin : Origin Acc} {tableType : TableType} {ident : TableIdentifier}
    {source : Source} (h : dropTable origin tableType ident source s = .ok s') : s'.permissions = s.permissions := by
  unfold dropTable at h
  simp only [Fallible.bind_eq_ok] at h
  obtain ⟨owner, -, s₁, hdrop, h⟩ := h
  cases h
  exact (congrArg Runtime.permissions (dropSingleTable_outsideRegistry hdrop) :)

/-- No extrinsic of the tables pallet writes the permissions. -/
theorem Call.run_permissions {origin : Origin Acc} {c : Call} (h : c.run ddl env origin s = .ok s') :
    s'.permissions = s.permissions := by
  cases c with
  | createTables tables => exact createTablesInner_permissions ddl env h
  | createTablesWithSnapshotAndCommitment sourceAndMode tables =>
    exact createTablesWithSnapshotAndCommitment_permissions ddl env h
  | clearTables => exact clearTables_permissions h
  | createNamespace schemaName version createStatement tableType source =>
    exact (congrArg Runtime.permissions (createNamespace_outsideRegistry ddl h) :)
  | dropTable tableType ident source => exact dropTable_permissions h
  | dropInvalidCommits ident =>
    obtain ⟨-, -, h⟩ := Fallible.bind_eq_ok.mp h
    cases h
    rfl
  | updateNamespaceUuid namespace_ version newUuid =>
    exact (congrArg Runtime.permissions (updateNamespaceUuid_outsideRegistry h) :)
  | updateTableUuid table version newUuid =>
    exact (congrArg Runtime.permissions (updateTableUuid_outsideRegistry ddl h) :)

end Tables

/-! ## The smart-contracts pallet -/

namespace SmartContracts

variable (ddl : DdlEnv) (env : Env C H)

theorem dropContractTables_permissions {l : List (TableIdentifier × TableType)} {s s' : Runtime Acc H C}
    (h : dropContractTables l s = .ok s') : s'.permissions = s.permissions := by
  induction l generalizing s with
  | nil =>
    cases h
    rfl
  | cons e rest ih =>
    simp only [dropContractTables, Fallible.bind_eq_ok] at h
    obtain ⟨s₁, hdrop, h⟩ := h
    rw [ih h]
    exact (congrArg Runtime.permissions (Tables.dropSingleTable_outsideRegistry hdrop) :)

@[simp] theorem recordStartingBlock_permissions (s : Runtime Acc H C) (tableIds : List (TableIdentifier × TableType))
    (o : Option UInt64) : (recordStartingBlock s tableIds o).permissions = s.permissions := by
  cases o <;> rfl

theorem removeSmartcontract_permissions {origin : Origin Acc} {source : Source} {address : ContractAddress}
    {s s' : Runtime Acc H C} (h : removeSmartcontract origin source address s = .ok s') :
    s'.permissions = s.permissions := by
  unfold removeSmartcontract at h
  simp only [Fallible.bind_eq_ok] at h
  obtain ⟨owner, -, h⟩ := h
  -- the contract's recorded tables are dropped, if it has any
  split at h
  · simp only [Fallible.bind_eq_ok] at h
    obtain ⟨s₁, hdrop, h⟩ := h
    cases h
    exact (dropContractTables_permissions hdrop :)
  · simp only [Fallible.bind_eq_ok] at h
    obtain ⟨s₁, hs₁, h⟩ := h
    cases hs₁
    cases h
    rfl

theorem addSmartcontract_permissions {origin : Origin Acc} {contract : Contract} {tables : UpdateTableList}
    {s s' : Runtime Acc H C} (h : addSmartcontract ddl env origin contract tables s = .ok s') :
    s'.permissions = s.permissions := by
  unfold addSmartcontract at h
  simp only [Fallible.bind_eq_ok] at h
  obtain ⟨owner, -, -, -, tableIds, -, targetSchema, -, ddlStatement, -, s₁, hns, h⟩ := h
  calc s'.permissions = s₁.permissions := (Tables.createTablesInner_permissions ddl env h :)
    _ = _ := (congrArg Runtime.permissions (Tables.createNamespace_outsideRegistry ddl hns) :)
    _ = s.permissions := recordStartingBlock_permissions _ _ _

/-- No extrinsic of the smart-contracts pallet writes the permissions. -/
theorem PalletCall.run_permissions {origin : Origin Acc} {c : PalletCall} {s s' : Runtime Acc H C}
    (h : c.run ddl env origin s = .ok s') : s'.permissions = s.permissions := by
  cases c with
  | removeSmartcontract source address => exact removeSmartcontract_permissions h
  | addSmartcontract contract tables => exact addSmartcontract_permissions ddl env h

end SmartContracts

/-! ## The indexing pallet -/

namespace Indexing

variable [DecidableEq H] (env : Env C H)

omit [DecidableEq H] in
@[simp] theorem recordBlockNumber_permissions (s : Runtime Acc H C) (t : TableIdentifier) (o : Option UInt64) :
    (recordBlockNumber s t o).permissions = s.permissions := by
  cases o <;> rfl

omit [DecidableEq H] in
theorem finalizeQuorum_permissions {quorum : DataQuorum Acc H} {d : RowData} {bn : Option UInt64}
    {s s' : Runtime Acc H C} (h : finalizeQuorum env quorum d bn s = .ok s') : s'.permissions = s.permissions := by
  unfold finalizeQuorum at h
  simp only [Fallible.bind_eq_ok] at h
  obtain ⟨tableBytes, -, ocTable, -, ⟨metadata, commitments⟩, -, data, -, h⟩ := h
  cases h
  simp [deposit, recordDecision]

theorem countInScope_permissions {c : Bool} {who : Acc} {b : BatchId} {hash : H} {t : TableIdentifier}
    {tiq : InsertQuorumSize} {q : QuorumScope} {s s' : Runtime Acc H C} {r : Option (DataQuorum Acc H)}
    (h : countInScope c who b hash t tiq q s = .ok (r, s')) : s'.permissions = s.permissions := by
  rcases countInScope_ok h with ⟨-, rfl⟩ | ⟨rfl, -⟩ <;> rfl

/-- No extrinsic of the indexing pallet writes the permissions. -/
theorem Call.run_permissions {origin : Origin Acc} {c : Call} {s s' : Runtime Acc H C}
    (h : c.run env origin s = .ok s') : s'.permissions = s.permissions := by
  obtain ⟨d, bn, hrun⟩ := c.run_eq env origin
  rw [hrun] at h
  obtain ⟨who, -, -, r₁, s₁, r₂, s₂, h₁, h₂, hlast⟩ := submitDataInner_ok env h
  -- the two counts, then the decision if one was reached
  have hs₂ : s₂.permissions = s.permissions :=
    (countInScope_permissions h₂).trans (countInScope_permissions h₁)
  rcases hlast with ⟨-, rfl⟩ | ⟨dq, -, hfinal⟩
  · exact hs₂
  · exact (finalizeQuorum_permissions env hfinal).trans hs₂

end Indexing

/-! ## The keystore and attestation pallets -/

namespace AttestationPallet

variable [DecidableEq H] (kenv : KeystoreEnv Acc)

/-- No extrinsic of the keystore or the attestation pallet writes the permissions. -/
theorem Call.run_permissions {origin : Origin Acc} {c : Call Acc H} {s s' : Runtime Acc H C}
    (h : c.run kenv origin s = .ok s') : s'.permissions = s.permissions :=
  (congrArg Runtime.permissions (Call.run_outsideOwn kenv h) :)

end AttestationPallet

/-! ## The whole runtime -/

section Runtime

variable [DecidableEq H] (ddl : DdlEnv) (env : Env C H) (kenv : KeystoreEnv Acc)

open PermissionsPallet

/-- Only the permissions pallet writes the permissions. -/
theorem RuntimeCall.run_permissions {origin : Origin Acc} {c : RuntimeCall Acc H} {s s' : Runtime Acc H C}
    (h : c.run ddl env kenv origin s = .ok s') : s'.permissions = s.permissions := by
  cases c with
  | Tables c => exact Tables.Call.run_permissions ddl env h
  | Indexing c => exact Indexing.Call.run_permissions env h
  | Smartcontracts c => exact SmartContracts.PalletCall.run_permissions ddl env h
  | Attestations c => exact AttestationPallet.Call.run_permissions kenv h

/-- One step of the runtime: an extrinsic of the permissions pallet that no root origin
dispatched, or one of another pallet, adds to what accounts hold only what a level held before
grants. -/
theorem runtimeStep_granted {s s' : Runtime Acc H C} (h : RuntimeStep ddl env kenv NonRoot s s') :
    Authority.Granted Grants (held s.permissions) (held s'.permissions) := by
  cases h with
  | permissions origin hroot c s => exact step_granted (.call origin hroot c ⟨s.permissions, []⟩)
  | call origin c s =>
    -- another pallet's extrinsic leaves the permissions as they were, whether it succeeds or not
    have hkeep : (dispatch (c.run ddl env kenv origin) s).permissions = s.permissions :=
      dispatch_preserves (fun s' : Runtime Acc H C => s'.permissions = s.permissions)
        (fun _ _ hs hrun => (RuntimeCall.run_permissions ddl env kenv hrun).trans hs) s rfl
    rw [hkeep]
    exact Authority.Granted.of_subset le_rfl

/-- The escalation bound: in every run of the runtime in which root dispatches none of the
permissions pallet's extrinsics, a level an account holds at the end was held at the start by
some account, inside `EditSpecificPermission` wrappers or behind an `UpdatePermissions` met while
taking them off. -/
theorem held_of_nonRoot_run {s₀ s : Runtime Acc H C}
    (hrun : Relation.ReflTransGen (RuntimeStep ddl env kenv NonRoot) s₀ s) {who : Acc} {p : PermissionLevel}
    (hp : hasPermissions s.permissions who p = true) :
    ∃ owner q, hasPermissions s₀.permissions owner q = true ∧
      (p ∈ q.unwrap ∨ .UpdatePermissions ∈ q.unwrap) := by
  have hclosure := Authority.subset_closure_of_run (fun _ _ h => runtimeStep_granted ddl env kenv h) hrun ⟨who, hp⟩
  obtain ⟨q, ⟨owner, howner⟩, hqp⟩ := hclosure
  exact ⟨owner, q, howner, reflTransGen_grants_iff.mp hqp⟩

end Runtime

/-! ## A run with a delegation -/

/-- A new chain on which account 0 may hand out `EditSpecificPermission (TablesPallet EditSchema)`. -/
def delegationChain : Runtime ℕ (List UInt8 × Option UInt64) MetaCommitment :=
  { Runtime.genesis with permissions := PermissionsPallet.delegationStart.permissions }

/-- Account 0 lets account 1 hand out `EditSchema`; account 1 tries to create tables, which it
may not; then it gives `EditSchema` to account 2. -/
def delegationChainEnd : Runtime ℕ (List UInt8 × Option UInt64) MetaCommitment :=
  (PermissionsPallet.Call.addProxyPermission 2 (.TablesPallet .EditSchema)).runOn (.Signed 1)
    (dispatch ((RuntimeCall.Tables (.createTables default)).run Tables.ddlNST Indexing.sampleEnv
        AttestationPallet.toyKeystoreEnv (.Signed 1))
      ((PermissionsPallet.Call.addProxyPermission 1 (.EditSpecificPermission (.TablesPallet .EditSchema))).runOn
        (.Signed 0) delegationChain))

theorem delegationChain_run :
    Relation.ReflTransGen (RuntimeStep Tables.ddlNST Indexing.sampleEnv AttestationPallet.toyKeystoreEnv
      PermissionsPallet.NonRoot) delegationChain delegationChainEnd :=
  .tail (.tail (.single (.permissions (.Signed 0) (by simp [PermissionsPallet.NonRoot]) _ _)) (.call (.Signed 1) _ _))
    (.permissions (.Signed 1) (by simp [PermissionsPallet.NonRoot]) _ _)

theorem delegationChain_held_from_start :
    ∃ owner q, hasPermissions delegationChain.permissions owner q = true ∧
      (PermissionLevel.TablesPallet .EditSchema ∈ q.unwrap ∨ .UpdatePermissions ∈ q.unwrap) :=
  held_of_nonRoot_run Tables.ddlNST Indexing.sampleEnv AttestationPallet.toyKeystoreEnv delegationChain_run
    (show hasPermissions delegationChainEnd.permissions 2 (.TablesPallet .EditSchema) = true by decide)

end SxtNode
