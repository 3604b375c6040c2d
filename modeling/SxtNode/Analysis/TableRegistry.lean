import SxtNode.Model.SmartContracts
import SxtNode.Analysis.IndexingVotes

/-!
# Where a created table is registered and committed to

Each call that creates tables registers a table under the identifier its caller gives, and
has the commitments pallet commit to the table its DDL defines under the identifier parsed
from the DDL's name, for the schemes its command asks for. Nothing compares the two
identifiers, and a command may ask for no scheme at all, so a registered table need not have
commitments under its identifier. The registry's own lists are not kept in step with the
schemas either: `clear_tables` removes every schema and leaves the identifier lists as they
are.
-/

set_option autoImplicit false

namespace SxtNode

namespace Tables

variable {Acc : Type} [LinearOrder Acc] {H C : Type} (ddl : DdlEnv) (env : Env C H)

/-- After creating `t`: a schema and insert quorum sizes under `t.ident`, and commitments to the
DDL's table, with its UUIDs added and its `WITH` clause removed, under the identifier of the
DDL's name for every scheme `t`'s command asks for. -/
def CreatedTable (s : Runtime Acc H C) (t : UpdateTable) : Prop :=
  (t.ident.namespace_, t.ident.name) ∈ s.schemas ∧ t.ident ∈ s.tableInsertQuorums ∧
  ∃ tableUuid columnUuids stmt b opts ident,
    ddl.updateUuid tableUuid columnUuids t.createStatement = .ok stmt ∧
    ddl.parseRemoveWith stmt = .ok (b, opts) ∧
    TableIdentifier.tryFromObjectName env.native.upper b.name = .ok ident ∧
    ∀ x, t.commitment.schemes.has x = true → (ident, x) ∈ s.commitmentStorageMap

/-- After creating `t` from a snapshot: a schema and insert quorum sizes under `t.tableName`, and
commitments to the DDL's table under the identifier of the DDL's name for every scheme of the
snapshot. -/
def CreatedTableWithCommitment (s : Runtime Acc H C) (t : CreateTableRequest) : Prop :=
  (t.tableName.namespace_, t.tableName.name) ∈ s.schemas ∧ t.tableName ∈ s.tableInsertQuorums ∧
  ∃ b ident, ddl.parse t.ddl = .ok b ∧ TableIdentifier.tryFromObjectName env.native.upper b.name = .ok ident ∧
    ∀ x, t.commitment.toFlags.has x = true → (ident, x) ∈ s.commitmentStorageMap

/-- What a later creation keeps of an earlier one: it only adds schemas, quorum sizes and
commitments. -/
theorem CreatedTable.mono {s s' : Runtime Acc H C} {t : UpdateTable} (h : CreatedTable ddl env s t)
    (hsch : ∀ k ∈ s.schemas, k ∈ s'.schemas) (hq : ∀ i ∈ s.tableInsertQuorums, i ∈ s'.tableInsertQuorums)
    (hcm : ∀ key ∈ s.commitmentStorageMap, key ∈ s'.commitmentStorageMap) : CreatedTable ddl env s' t := by
  obtain ⟨hs, hqs, tu, cu, stmt, b, opts, ident, hstmt, hparse, hident, hmem⟩ := h
  exact ⟨hsch _ hs, hq _ hqs, tu, cu, stmt, b, opts, ident, hstmt, hparse, hident, fun x hx => hcm _ (hmem x hx)⟩

theorem CreatedTableWithCommitment.mono {s s' : Runtime Acc H C} {t : CreateTableRequest}
    (h : CreatedTableWithCommitment ddl env s t) (hsch : ∀ k ∈ s.schemas, k ∈ s'.schemas)
    (hq : ∀ i ∈ s.tableInsertQuorums, i ∈ s'.tableInsertQuorums)
    (hcm : ∀ key ∈ s.commitmentStorageMap, key ∈ s'.commitmentStorageMap) :
    CreatedTableWithCommitment ddl env s' t := by
  obtain ⟨hs, hqs, b, ident, hb, hident, hmem⟩ := h
  exact ⟨hsch _ hs, hq _ hqs, b, ident, hb, hident, fun x hx => hcm _ (hmem x hx)⟩

theorem createTablesInner_created {origin : Origin Acc} {tables : UpdateTableList} {s s' : Runtime Acc H C}
    (h : createTablesInner ddl env origin tables s = .ok s') : ∀ t ∈ tables.toList, CreatedTable ddl env s' t := by
  unfold createTablesInner at h
  simp only [Fallible.bind_eq_ok] at h
  obtain ⟨owner, -, ⟨list, s₁⟩, hmap, h⟩ := h
  cases h
  -- each table's step creates it; the later steps keep what it created
  intro t ht
  have hcreated := Fallible.mapState_forall (fun t s => CreatedTable ddl env s t)
    (fun t s s' t' hstep => createTable_registers ddl env hstep)
    (fun t' t s s' t'' hc hstep => by
      obtain ⟨hsch, hq, hcm⟩ := createTable_mono ddl env hstep
      exact CreatedTable.mono ddl env hc hsch hq hcm) hmap t ht
  exact hcreated

theorem createTablesWithSnapshotAndCommitment_created {origin : Origin Acc} {sourceAndMode : SourceAndMode}
    {tables : CreateTableList} {s s' : Runtime Acc H C}
    (h : createTablesWithSnapshotAndCommitment ddl env origin sourceAndMode tables s = .ok s') :
    ∀ t ∈ tables.toList, CreatedTableWithCommitment ddl env s' t := by
  unfold createTablesWithSnapshotAndCommitment at h
  simp only [Fallible.bind_eq_ok] at h
  obtain ⟨owner, -, ⟨list, s₁⟩, hmap, h⟩ := h
  cases h
  intro t ht
  have hcreated := Fallible.mapState_forall (fun t s => CreatedTableWithCommitment ddl env s t)
    (fun t s s' t' hstep => by
      obtain ⟨-, -, -, hs, hq, b, ident, hb, hident, hmem⟩ := createTableWithCommitment_ok ddl env hstep
      exact ⟨hs, hq, b, ident, hb, hident, hmem⟩)
    (fun t' t s s' t'' hc hstep => by
      obtain ⟨hsch, hq, hcm, -⟩ := createTableWithCommitment_ok ddl env hstep
      exact CreatedTableWithCommitment.mono ddl env hc hsch hq hcm) hmap t ht
  exact hcreated

/-- Every call that creates tables registers each of them under the identifier its caller
gives, and commits to the table its DDL defines under the identifier of the DDL's name, for the
schemes its command asks for. -/
theorem created_tables_registered_and_committed (origin : Origin Acc) :
    (∀ (tables : UpdateTableList) (s s' : Runtime Acc H C), createTables ddl env origin tables s = .ok s' →
      ∀ t ∈ tables.toList, CreatedTable ddl env s' t) ∧
    (∀ (sourceAndMode : SourceAndMode) (tables : CreateTableList) (s s' : Runtime Acc H C),
      createTablesWithSnapshotAndCommitment ddl env origin sourceAndMode tables s = .ok s' →
      ∀ t ∈ tables.toList, CreatedTableWithCommitment ddl env s' t) ∧
    (∀ (contract : Contract) (tables : UpdateTableList) (s s' : Runtime Acc H C),
      SmartContracts.addSmartcontract ddl env origin contract tables s = .ok s' →
      ∀ t ∈ tables.toList, CreatedTable ddl env s' t) := by
  refine ⟨fun tables s s' h => createTablesInner_created ddl env h,
    fun sourceAndMode tables s s' h => createTablesWithSnapshotAndCommitment_created ddl env h,
    fun contract tables s s' h => ?_⟩
  -- adding a contract ends with `create_tables_inner` on its tables
  unfold SmartContracts.addSmartcontract at h
  simp only [Fallible.bind_eq_ok] at h
  obtain ⟨owner, -, u, -, tableIds, -, targetSchema, -, ddlStatement, -, s₁, -, h⟩ := h
  exact createTablesInner_created ddl env h

/-! ## Runs from a new chain

One DDL statement, `CREATE TABLE NS.T (A BIGINT NOT NULL) WITH (TABLE_UUID = u1)`, created by
root under the identifier `NS.T`. -/

/-- sqlparser and the UUID helpers on a single statement `text`, which carries the table UUID
`uuid` and no column UUIDs: it parses to `b` with or without its `WITH` clause `withClause`,
adding its own UUID prints it back unchanged, and `b` with the row number column prints as
`printed`. -/
def DdlEnv.single (text : CreateStatement) (b : CreateTableBuilder) (withClause : List UInt8) (uuid : TableUuid)
    (printed : CreateStatement) : DdlEnv where
  parse st := if st = text then .ok b else .error ()
  parseRemoveWith st := if st = text then .ok (b, some withClause) else .error ()
  print b' := if b' = createTableWithRowNumberColumn b then .ok printed else .error ()
  updateUuid u cs st := if u = uuid ∧ cs = default ∧ st = text then .ok text else .error .ParseError
  uuidsFromCreateStatement st := .ok (if st = text then some (uuid, default) else none)
  generateTableUuid _ _ _ := none
  generateColumnUuidList _ := .error (.Other "Failed to parse CreateStatement")
  extractSchemaUuid _ := none
  generateNamespaceUuid _ _ := none

/-- A statement written as text. -/
def createStatementOf (text : String) (h : (utf8Bytes text).length ≤ CREATE_STMNT_LENGTH := by decide) :
    CreateStatement :=
  ⟨utf8Bytes text, h⟩

def identNST : TableIdentifier := ⟨⟨utf8Bytes "T", by decide⟩, ⟨utf8Bytes "NS", by decide⟩⟩

def ddlNST : DdlEnv :=
  DdlEnv.single (createStatementOf "CREATE TABLE NS.T (A BIGINT NOT NULL) WITH (TABLE_UUID = u1)")
    ⟨[Ident.new "NS", Ident.new "T"], [⟨Ident.new "A", .BigInt none, [.NotNull]⟩]⟩
    (utf8Bytes "WITH (TABLE_UUID = u1)") ⟨utf8Bytes "u1", by decide⟩
    (createStatementOf "CREATE TABLE NS.T (A BIGINT NOT NULL, META_ROW_NUMBER BIGINT NOT NULL)")

/-- The community table `NS.T` with the statement, asking for the given schemes. -/
def tablesNST (schemes : CommitmentSchemeFlags) : UpdateTableList :=
  ⟨[⟨identNST, createStatementOf "CREATE TABLE NS.T (A BIGINT NOT NULL) WITH (TABLE_UUID = u1)", .Community,
    .Empty schemes, .Ethereum⟩], by simp [MAX_TABLES_PER_SCHEMA]⟩

/-- Root creates `NS.T` asking for no commitment scheme. -/
def noSchemeRun : Runtime ℕ (List UInt8 × Option UInt64) MetaCommitment :=
  dispatch (createTables ddlNST Indexing.sampleEnv .Root (tablesNST ⟨false, false⟩)) Runtime.genesis

/-- The call succeeds and registers `NS.T`, and no commitment is stored for it. -/
theorem noSchemeRun_schema_without_commitment :
    createTables ddlNST Indexing.sampleEnv .Root (tablesNST ⟨false, false⟩) Runtime.genesis = .ok noSchemeRun ∧
    (identNST.namespace_, identNST.name) ∈ noSchemeRun.schemas ∧
    ∀ x, (identNST, x) ∉ noSchemeRun.commitmentStorageMap := by
  refine ⟨eq_ok_dispatch (by decide), by decide, fun x => ?_⟩
  cases x <;> decide

/-- Root creates `NS.T` with a dynamic Dory commitment. -/
def doryRun : Runtime ℕ (List UInt8 × Option UInt64) MetaCommitment :=
  dispatch (createTables ddlNST Indexing.sampleEnv .Root (tablesNST ⟨false, true⟩)) Runtime.genesis

theorem doryRun_created :
    ∀ t ∈ (tablesNST ⟨false, true⟩).toList, CreatedTable ddlNST Indexing.sampleEnv doryRun t :=
  (created_tables_registered_and_committed ddlNST Indexing.sampleEnv .Root).1 _ _ _ (eq_ok_dispatch (by decide))

/-- Root then clears the tables. -/
def clearedRun : Runtime ℕ (List UInt8 × Option UInt64) MetaCommitment :=
  dispatch (clearTables .Root) doryRun

/-- After clearing, `NS.T` has no schema but is still registered as a community table. -/
theorem clearedRun_keeps_identifier :
    createTables ddlNST Indexing.sampleEnv .Root (tablesNST ⟨false, true⟩) Runtime.genesis = .ok doryRun ∧
    clearTables .Root doryRun = .ok clearedRun ∧
    identNST ∈ (clearedRun.identifiers .Community).toList ∧ (identNST.namespace_, identNST.name) ∉ clearedRun.schemas :=
  ⟨eq_ok_dispatch (by decide), eq_ok_dispatch (by decide), by decide, by decide⟩

end Tables

end SxtNode
