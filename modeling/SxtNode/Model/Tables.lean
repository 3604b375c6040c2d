import SxtNode.Model.Runtime

/-!
# The tables pallet

`pallet_tables` keeps the registry of tables: the identifiers of each table type, the DDL of
each table under its namespace and name, its insert quorum sizes, its source, snapshot URL
and UUID versions. Creating a table registers it under the identifier the caller gives and
has `pallet_commitments` commit to the table its DDL defines, under the identifier parsed
from the DDL's name; dropping a table unregisters that identifier and removes the
commitments stored under it. The DDL text is handled by sqlparser and the UUID helpers of
`sxt_core::tables`, which are the parameter `DdlEnv`.
-/

set_option autoImplicit false

namespace SxtNode

/-- `UpdateUuidError`, with the parse error it wraps left out. -/
inductive UpdateUuidError where
  | InvalidUuid
  | ParseError
deriving DecidableEq, Repr

/-- The DDL text functions of `sxt_core::tables`, which parse and print statements with
sqlparser. -/
structure DdlEnv where
  /-- `create_statement_to_sqlparser`. -/
  parse : CreateStatement → Except Unit CreateTableBuilder
  /-- `create_statement_to_sqlparser_remove_with`: the statement parsed without its `WITH`
  clause, and the clause's bytes. -/
  parseRemoveWith : CreateStatement → Except Unit (CreateTableBuilder × Option (List UInt8))
  /-- `sqlparser_to_create_statement`. -/
  print : CreateTableBuilder → Except Unit CreateStatement
  /-- `update_uuid_in_create_table_statement`. -/
  updateUuid : TableUuid → ColumnUuidList → CreateStatement → Except UpdateUuidError CreateStatement
  /-- `uuids_from_create_statement`: none when the statement does not parse; its unwraps of
  option values abort. -/
  uuidsFromCreateStatement : CreateStatement → Fallible Empty (Option (TableUuid × ColumnUuidList))
  /-- `generate_table_uuid` at a block number. -/
  generateTableUuid : ℕ → String → String → Option TableUuid
  /-- `generate_column_uuid_list`. -/
  generateColumnUuidList : CreateStatement → Except DispatchError ColumnUuidList
  /-- `extract_schema_uuid`. -/
  extractSchemaUuid : String → Option String
  /-- `generate_namespace_uuid` at a block number. -/
  generateNamespaceUuid : ℕ → String → Option TableUuid

/-- The schemes a table's commitment command asks for: its flags, or the schemes of the
snapshot's commitments. -/
def CommitmentCreationCmd.schemes : CommitmentCreationCmd → CommitmentSchemeFlags
  | .Empty flags => flags
  | .FromSnapshot _ commitments => commitments.toFlags

/-- `core::str::from_utf8`. -/
def fromUtf8 (bytes : List UInt8) : Option String := String.fromUTF8? ⟨bytes.toArray⟩

/-- Decoding a string's own bytes gives the string back. -/
theorem fromUtf8_utf8Bytes (s : String) : fromUtf8 (utf8Bytes s) = some s := by
  have hbytes : (⟨(utf8Bytes s).toArray⟩ : ByteArray) = s.toByteArray := by
    rw [utf8Bytes_eq_toByteArray]
  simp only [fromUtf8, hbytes, String.fromUTF8?, dif_pos s.isValidUTF8]
  rfl

namespace Tables

variable {Acc : Type} [LinearOrder Acc] {H C : Type}

/-- `map_uuid_error`. -/
def mapUuidError : UpdateUuidError → DispatchError
  | .InvalidUuid => .Tables .TableUUIDError
  | .ParseError => .Tables .CreateStatementParseError

/-- `Self::deposit_event`. -/
def deposit (s : Runtime Acc H C) (events : List (TablesEvent Acc)) : Runtime Acc H C :=
  { s with tablesEvents := s.tablesEvents ++ events }

/-- `remove_commits`: every commitment stored under the identifier. -/
def removeCommits (ident : TableIdentifier) (s : Runtime Acc H C) : Runtime Acc H C :=
  { s with commitmentStorageMap := s.commitmentStorageMap.removePrefix ident }

/-- `insert_namespace_uuid`: a version is assigned once. -/
def insertNamespaceUuid (namespaceName : TableNamespace) (version : TableVersion) (namespaceUuid : TableUuid)
    (s : Runtime Acc H C) : Fallible DispatchError (Runtime Acc H C) :=
  if (namespaceName, version) ∈ s.namespaceVersions then Fallible.fail (.Tables .VersionAlreadyExists)
  else .ok { s with namespaceVersions := s.namespaceVersions.insert (namespaceName, version) namespaceUuid }

/-- The version after the greatest one stored for a table, or zero. -/
def nextTableVersion (s : Runtime Acc H C) (ident : TableIdentifier) : TableVersion :=
  (((s.tableVersions.iterPrefix ident).map Prod.fst).max?.map (· + 1)).getD 0

/-- `insert_table_uuid`: stores the table and column UUIDs at the next version. -/
def insertTableUuid (ident : TableIdentifier) (uuid : TableUuid) (columnUuids : ColumnUuidList)
    (s : Runtime Acc H C) : Runtime Acc H C :=
  let nextVersion := nextTableVersion s ident
  { s with
    tableVersions := s.tableVersions.insert (ident, nextVersion) uuid
    columnVersions := s.columnVersions.insert (ident, nextVersion) columnUuids }

/-- The identifier list of a table type after `try_push`, whose failure on a full list is
ignored. -/
def pushIdentifier (identifiers : IdentifierList) (ident : TableIdentifier) : IdentifierList :=
  match identifiers.tryPush ident with
  | .ok identifiers' => identifiers'
  | .error _ => identifiers

/-- `insert_schema`: registers the identifier under the table type and stores the statement,
the type's quorum sizes and the source under it. -/
def insertSchema (ident : TableIdentifier) (stmnt : CreateStatement) (tableType : TableType) (source : Source)
    (s : Runtime Acc H C) : Runtime Acc H C :=
  { s with
    identifiers := Function.update s.identifiers tableType (pushIdentifier (s.identifiers tableType) ident)
    schemas := s.schemas.insert (ident.namespace_, ident.name) stmnt
    tableInsertQuorums := s.tableInsertQuorums.insert ident tableType.insertQuorumSize
    tableSources := s.tableSources.insert ident source }

/-- Stores a commitment map the commitments pallet returned. -/
def setCommitments (s : Runtime Acc H C) (m : CommitmentStorageMap C) : Runtime Acc H C :=
  { s with commitmentStorageMap := m }

/-- Stores a table's snapshot URL. -/
def setSnapshot (s : Runtime Acc H C) (ident : TableIdentifier) (url : SnapshotUrl) : Runtime Acc H C :=
  { s with snapshots := s.snapshots.insert ident url }

variable (ddl : DdlEnv) (env : Env C H)

/-- `insert_initial_commitment`: commits to the DDL's table from the snapshot commitments and
stores the snapshot URL; returns the DDL with its metadata columns. -/
def insertInitialCommitment (ident : TableIdentifier) (statement : CreateStatement)
    (commit : Commitments TableCommitmentBytes) (snapshot : SnapshotUrl) (s : Runtime Acc H C) :
    Fallible DispatchError (CreateStatement × Runtime Acc H C) := do
  let createTable ← Fallible.ofExcept (fun _ => .Tables .CreateStatementParseError) (ddl.parse statement)
  let (metadata, m) ← (processCreateTableFromSnapshotAndInitiateCommitments env.native env.posql createTable
    commit s.commitmentStorageMap).mapErr DispatchError.Commitments
  let statementWithMetadata ← Fallible.ofExcept (fun _ => .Tables .CreateStatementParseError)
    (ddl.print metadata.tableWithMetaColumns)
  pure (statementWithMetadata, setSnapshot (setCommitments s m) ident snapshot)

/-- The fallback of `get_or_generate_uuids_for_table`: UUIDs generated from the block number
and the identifier, and column UUIDs from the statement. -/
def generateUuidsForTable (raw : CreateStatement) (identifier : TableIdentifier) (s : Runtime Acc H C) :
    Fallible DispatchError (TableUuid × ColumnUuidList) := do
  let namespace_ ← Fallible.okOr (fromUtf8 identifier.namespace_.toList) (.Other "Invalid UTF-8 namespace")
  let name ← Fallible.okOr (fromUtf8 identifier.name.toList) (.Other "Invalid UTF-8 name")
  let tableUuid ← Fallible.okOr (ddl.generateTableUuid s.blockNumber namespace_ name) (.Tables .UUIDGenerationError)
  let columnUuids ← Fallible.ofExcept id (ddl.generateColumnUuidList raw)
  pure (tableUuid, columnUuids)

/-- `get_or_generate_uuids_for_table`: the UUIDs the statement carries, if it parses and
carries any; otherwise generated ones. -/
def getOrGenerateUuidsForTable (raw : CreateStatement) (identifier : TableIdentifier) (s : Runtime Acc H C) :
    Fallible DispatchError (TableUuid × ColumnUuidList) := do
  let parsed ← (ddl.uuidsFromCreateStatement raw).mapErr Empty.elim
  match parsed with
  | some (tableUuid, columnUuids) =>
    if tableUuid ≠ default ∨ columnUuids.toList ≠ [] then pure (tableUuid, columnUuids)
    else generateUuidsForTable ddl raw identifier s
  | none => generateUuidsForTable ddl raw identifier s

/-- The commitment step of `create_tables_inner`: an empty commitment under the given
schemes, or the snapshot's commitments after storing its URL. -/
def initiateCommitments (table : UpdateTable) (createTable : CreateTableBuilder) (s : Runtime Acc H C) :
    Fallible DispatchError (CreateTableAndCommitmentMetadata × Runtime Acc H C) :=
  match table.commitment with
  | .Empty scheme => do
    let (metadata, m) ← (processCreateTableAndInitiateCommitmentsWithScheme env.native env.posql createTable
      scheme s.commitmentStorageMap).mapErr DispatchError.Commitments
    pure (metadata, setCommitments s m)
  | .FromSnapshot snapshotUrl perCommitmentScheme => do
    let s := setSnapshot s table.ident snapshotUrl
    let (metadata, m) ← (processCreateTableFromSnapshotAndInitiateCommitments env.native env.posql createTable
      perCommitmentScheme s.commitmentStorageMap).mapErr DispatchError.Commitments
    pure (metadata, setCommitments s m)

/-- `str::trim_end_matches(';')`. -/
def trimEndSemicolons (s : String) : String :=
  String.ofList (s.toList.reverse.dropWhile (· = ';')).reverse

/-- The final DDL of `create_tables_inner`: the statement with metadata columns, trailing
semicolons dropped, and the removed `WITH` clause appended again. -/
def reconstructStatement (statementWithMetadata : String) (withOptions : Option (List UInt8)) :
    Fallible DispatchError String :=
  let base := trimEndSemicolons statementWithMetadata
  match withOptions with
  | some opts => do
    let opts ← Fallible.okOr (fromUtf8 opts) (.Tables .UtfConversionError)
    pure (base ++ " " ++ opts ++ ";")
  | none => pure (base ++ ";")

/-- One table of `create_tables_inner`: UUIDs, registration under `table.ident`, commitments
to the DDL's table, and the rebuilt DDL. -/
def createTable (table : UpdateTable) (s : Runtime Acc H C) :
    Fallible DispatchError (UpdateTable × Runtime Acc H C) := do
  let (tableUuid, columnUuids) ← (getOrGenerateUuidsForTable ddl table.createStatement table.ident s).mapErr
    fun _ => .Tables .UUIDGenerationError
  let updatedCreateStatement ← Fallible.ofExcept mapUuidError
    (ddl.updateUuid tableUuid columnUuids table.createStatement)
  let s := insertTableUuid table.ident tableUuid columnUuids s
  let s := insertSchema table.ident updatedCreateStatement table.tableType table.source s
  let (createTable, withOptions) ← Fallible.ofExcept (fun _ => .Tables .CreateStatementParseError)
    (ddl.parseRemoveWith updatedCreateStatement)
  let (metadata, s) ← initiateCommitments env table createTable s
  let statementWithMetadata ← Fallible.ofExcept (fun _ => .Tables .CreateStatementParseError)
    (ddl.print metadata.tableWithMetaColumns)
  let statementWithMetadata ← Fallible.okOr (fromUtf8 statementWithMetadata.toList) (.Tables .UtfConversionError)
  let reconstructed ← reconstructStatement statementWithMetadata withOptions
  let createStatement ← Fallible.okOr (BoundedVec.ofList? (utf8Bytes reconstructed)) (.Tables .BoundedVecError)
  pure ({ table with createStatement := createStatement }, s)

/-- `create_tables_inner`: creates every table in order and deposits `SchemaUpdated`. -/
def createTablesInner (origin : Origin Acc) (tables : UpdateTableList) (s : Runtime Acc H C) :
    Fallible DispatchError (Runtime Acc H C) := do
  let owner ← Fallible.ofExcept DispatchError.ofOrigin
    (ensureRootOrPermissioned s.permissions origin (.TablesPallet .EditSchema))
  let (tablesWithMetaColumns, s) ← Fallible.mapState (createTable ddl env) tables.toList s
  pure (deposit s [.SchemaUpdated owner tablesWithMetaColumns])

/-- `create_tables`. -/
def createTables (origin : Origin Acc) (tables : UpdateTableList) (s : Runtime Acc H C) :
    Fallible DispatchError (Runtime Acc H C) :=
  createTablesInner ddl env origin tables s

/-- One table of `create_tables_with_snapshot_and_commitment`: registration under
`table.tableName`, then the snapshot's commitments to the DDL's table. -/
def createTableWithCommitment (source : Source) (table : CreateTableRequest) (s : Runtime Acc H C) :
    Fallible DispatchError (CreateTableRequest × Runtime Acc H C) := do
  let s := insertSchema table.tableName table.ddl table.tableType source s
  let (statementWithMetadata, s) ← insertInitialCommitment ddl env table.tableName table.ddl table.commitment
    table.snapshotUrl s
  pure ({ table with ddl := statementWithMetadata }, s)

/-- `create_tables_with_snapshot_and_commitment`. -/
def createTablesWithSnapshotAndCommitment (origin : Origin Acc) (sourceAndMode : SourceAndMode)
    (tables : CreateTableList) (s : Runtime Acc H C) : Fallible DispatchError (Runtime Acc H C) := do
  let _ ← Fallible.ofExcept DispatchError.ofOrigin
    (ensureRootOrPermissioned s.permissions origin (.TablesPallet .EditSchema))
  let (tables, s) ← Fallible.mapState (createTableWithCommitment ddl env sourceAndMode.source) tables.toList s
  pure (deposit s [.TablesCreatedWithCommitments sourceAndMode tables])

/-- `clear_tables`: root removes every schema, insert quorum size and commitment, failing
when a map holds more than a thousand entries. -/
def clearTables (origin : Origin Acc) (s : Runtime Acc H C) : Fallible DispatchError (Runtime Acc H C) := do
  Fallible.ofExcept DispatchError.ofOrigin (ensureRoot origin)
  let (schemas, schemasLeft) := s.schemas.clear 1000
  Fallible.ensure (!schemasLeft) (.Tables .NotAllSchemasRemovedError)
  let (quorums, quorumsLeft) := s.tableInsertQuorums.clear 1000
  Fallible.ensure (!quorumsLeft) (.Tables .NotAllInsertQuorumsRemovedError)
  let (commitments, commitmentsLeft) := s.commitmentStorageMap.clear 1000
  Fallible.ensure (!commitmentsLeft) (.Tables .NotAllCommitmentsRemovedError)
  pure { s with schemas := schemas, tableInsertQuorums := quorums, commitmentStorageMap := commitments }

/-- `create_namespace`: stores the namespace UUID the statement names, or a generated one. -/
def createNamespace (origin : Origin Acc) (schemaName : ByteString) (version : TableVersion)
    (createStatement : CreateStatement) (tableType : TableType) (source : Source) (s : Runtime Acc H C) :
    Fallible DispatchError (Runtime Acc H C) := do
  let _ ← Fallible.ofExcept DispatchError.ofOrigin
    (ensureRootOrPermissioned s.permissions origin (.TablesPallet .EditSchema))
  let rawSql ← Fallible.okOr (fromUtf8 createStatement.toList) (.Tables .CreateStatementParseError)
  let schemaNameS ← Fallible.okOr (fromUtf8 schemaName.toList) (.Tables .SchemaNameParseError)
  let namespaceUuid ← match ddl.extractSchemaUuid rawSql with
    | some uuid => Fallible.okOr (BoundedVec.ofList? (utf8Bytes uuid)) (.Tables .TableUUIDError)
    | none => Fallible.okOr (ddl.generateNamespaceUuid s.blockNumber schemaNameS) (.Tables .UUIDGenerationError)
  let s ← insertNamespaceUuid schemaName version namespaceUuid s
  pure (deposit s [.NamespaceCreated createStatement version namespaceUuid tableType source])

/-- `drop_single_table`: the identifier must be registered under the type and have a schema;
both are removed, with its insert quorum sizes. -/
def dropSingleTable (tableType : TableType) (ident : TableIdentifier) (s : Runtime Acc H C) :
    Fallible DispatchError (Runtime Acc H C) := do
  let identifiers := (s.identifiers tableType).retain (· != ident)
  Fallible.ensure (decide (identifiers.toList.length < (s.identifiers tableType).toList.length))
    (.Tables .TableNotFound)
  Fallible.ensure (decide ((ident.namespace_, ident.name) ∈ s.schemas)) (.Tables .TableNotFound)
  pure { s with
    identifiers := Function.update s.identifiers tableType identifiers
    schemas := s.schemas.erase (ident.namespace_, ident.name)
    tableInsertQuorums := s.tableInsertQuorums.erase ident }

/-- `drop_table`: drops the table and the commitments stored under its identifier. -/
def dropTable (origin : Origin Acc) (tableType : TableType) (ident : TableIdentifier) (source : Source)
    (s : Runtime Acc H C) : Fallible DispatchError (Runtime Acc H C) := do
  let owner ← Fallible.ofExcept DispatchError.ofOrigin
    (ensureRootOrPermissioned s.permissions origin (.TablesPallet .EditSchema))
  let s ← dropSingleTable tableType ident s
  pure (deposit (removeCommits ident s) [.TableDropped owner tableType ident source])

/-- `drop_invalid_commits`. -/
def dropInvalidCommits (origin : Origin Acc) (ident : TableIdentifier) (s : Runtime Acc H C) :
    Fallible DispatchError (Runtime Acc H C) := do
  Fallible.ofExcept DispatchError.ofOrigin (ensureRoot origin)
  pure (removeCommits ident s)

/-- `update_namespace_uuid`. -/
def updateNamespaceUuid (origin : Origin Acc) (namespace_ : TableNamespace) (version : TableVersion)
    (newUuid : TableUuid) (s : Runtime Acc H C) : Fallible DispatchError (Runtime Acc H C) := do
  let _ ← Fallible.ofExcept DispatchError.ofOrigin
    (ensureRootOrPermissioned s.permissions origin (.TablesPallet .EditUuid))
  let maybeUuid := s.namespaceVersions.getD (namespace_, version) default
  let s := { s with namespaceVersions := s.namespaceVersions.insert (namespace_, version) newUuid }
  pure (deposit s [.NamespaceUuidUpdated maybeUuid newUuid version namespace_])

/-- `update_table_uuid`: also rewrites the UUID in the table's stored DDL, if it has one. -/
def updateTableUuid (origin : Origin Acc) (table : TableIdentifier) (version : TableVersion)
    (newUuid : TableUuid) (s : Runtime Acc H C) : Fallible DispatchError (Runtime Acc H C) := do
  let _ ← Fallible.ofExcept DispatchError.ofOrigin
    (ensureRootOrPermissioned s.permissions origin (.TablesPallet .EditUuid))
  let maybeUuid := s.tableVersions.getD (table, version) default
  let s := { s with tableVersions := s.tableVersions.insert (table, version) newUuid }
  let s ← match s.schemas.lookup (table.namespace_, table.name) with
    | some oldCreateStatement => do
      let updated ← Fallible.ofExcept mapUuidError (ddl.updateUuid newUuid default oldCreateStatement)
      pure { s with schemas := s.schemas.insert (table.namespace_, table.name) updated }
    | none => pure s
  pure (deposit s [.TableUuidUpdated maybeUuid newUuid version table])

/-- The pallet's extrinsics. -/
inductive Call where
  | createTables (tables : UpdateTableList)
  | createTablesWithSnapshotAndCommitment (sourceAndMode : SourceAndMode) (tables : CreateTableList)
  | clearTables
  | createNamespace (schemaName : ByteString) (version : TableVersion) (createStatement : CreateStatement)
      (tableType : TableType) (source : Source)
  | dropTable (tableType : TableType) (ident : TableIdentifier) (source : Source)
  | dropInvalidCommits (ident : TableIdentifier)
  | updateNamespaceUuid (namespace_ : TableNamespace) (version : TableVersion) (newUuid : TableUuid)
  | updateTableUuid (table : TableIdentifier) (version : TableVersion) (newUuid : TableUuid)

/-- Dispatching an extrinsic. -/
def Call.run (origin : Origin Acc) : Call → Runtime Acc H C → Fallible DispatchError (Runtime Acc H C)
  | .createTables tables => Tables.createTables ddl env origin tables
  | .createTablesWithSnapshotAndCommitment sourceAndMode tables =>
    Tables.createTablesWithSnapshotAndCommitment ddl env origin sourceAndMode tables
  | .clearTables => Tables.clearTables origin
  | .createNamespace schemaName version createStatement tableType source =>
    Tables.createNamespace ddl origin schemaName version createStatement tableType source
  | .dropTable tableType ident source => Tables.dropTable origin tableType ident source
  | .dropInvalidCommits ident => Tables.dropInvalidCommits origin ident
  | .updateNamespaceUuid namespace_ version newUuid => Tables.updateNamespaceUuid origin namespace_ version newUuid
  | .updateTableUuid table version newUuid => Tables.updateTableUuid ddl origin table version newUuid

/-! ## What each function does -/

section Fields

variable {s : Runtime Acc H C}

@[simp] theorem insertSchema_schemas (i : TableIdentifier) (st : CreateStatement) (tt : TableType) (src : Source) :
    (insertSchema i st tt src s).schemas = s.schemas.insert (i.namespace_, i.name) st := rfl

@[simp] theorem insertSchema_tableInsertQuorums (i : TableIdentifier) (st : CreateStatement) (tt : TableType)
    (src : Source) : (insertSchema i st tt src s).tableInsertQuorums = s.tableInsertQuorums.insert i tt.insertQuorumSize :=
  rfl

@[simp] theorem insertSchema_identifiers (i : TableIdentifier) (st : CreateStatement) (tt : TableType) (src : Source) :
    (insertSchema i st tt src s).identifiers =
      Function.update s.identifiers tt (pushIdentifier (s.identifiers tt) i) := rfl

@[simp] theorem insertSchema_commitmentStorageMap (i : TableIdentifier) (st : CreateStatement) (tt : TableType)
    (src : Source) : (insertSchema i st tt src s).commitmentStorageMap = s.commitmentStorageMap := rfl

@[simp] theorem insertTableUuid_schemas (i : TableIdentifier) (u : TableUuid) (cs : ColumnUuidList) :
    (insertTableUuid i u cs s).schemas = s.schemas := rfl

@[simp] theorem insertTableUuid_tableInsertQuorums (i : TableIdentifier) (u : TableUuid) (cs : ColumnUuidList) :
    (insertTableUuid i u cs s).tableInsertQuorums = s.tableInsertQuorums := rfl

@[simp] theorem insertTableUuid_identifiers (i : TableIdentifier) (u : TableUuid) (cs : ColumnUuidList) :
    (insertTableUuid i u cs s).identifiers = s.identifiers := rfl

@[simp] theorem insertTableUuid_commitmentStorageMap (i : TableIdentifier) (u : TableUuid) (cs : ColumnUuidList) :
    (insertTableUuid i u cs s).commitmentStorageMap = s.commitmentStorageMap := rfl

@[simp] theorem setCommitments_schemas (m : CommitmentStorageMap C) : (setCommitments s m).schemas = s.schemas := rfl

@[simp] theorem setCommitments_tableInsertQuorums (m : CommitmentStorageMap C) :
    (setCommitments s m).tableInsertQuorums = s.tableInsertQuorums := rfl

@[simp] theorem setCommitments_identifiers (m : CommitmentStorageMap C) :
    (setCommitments s m).identifiers = s.identifiers := rfl

@[simp] theorem setCommitments_commitmentStorageMap (m : CommitmentStorageMap C) :
    (setCommitments s m).commitmentStorageMap = m := rfl

@[simp] theorem setSnapshot_schemas (i : TableIdentifier) (u : SnapshotUrl) : (setSnapshot s i u).schemas = s.schemas :=
  rfl

@[simp] theorem setSnapshot_tableInsertQuorums (i : TableIdentifier) (u : SnapshotUrl) :
    (setSnapshot s i u).tableInsertQuorums = s.tableInsertQuorums := rfl

@[simp] theorem setSnapshot_identifiers (i : TableIdentifier) (u : SnapshotUrl) :
    (setSnapshot s i u).identifiers = s.identifiers := rfl

@[simp] theorem setSnapshot_commitmentStorageMap (i : TableIdentifier) (u : SnapshotUrl) :
    (setSnapshot s i u).commitmentStorageMap = s.commitmentStorageMap := rfl

@[simp] theorem deposit_schemas (l : List (TablesEvent Acc)) : (deposit s l).schemas = s.schemas := rfl

@[simp] theorem deposit_tableInsertQuorums (l : List (TablesEvent Acc)) :
    (deposit s l).tableInsertQuorums = s.tableInsertQuorums := rfl

@[simp] theorem deposit_identifiers (l : List (TablesEvent Acc)) : (deposit s l).identifiers = s.identifiers := rfl

@[simp] theorem deposit_commitmentStorageMap (l : List (TablesEvent Acc)) :
    (deposit s l).commitmentStorageMap = s.commitmentStorageMap := rfl

end Fields

section Spec

variable {s s' : Runtime Acc H C}

/-- The commitment step leaves the registry alone and commits to the DDL's table under the
identifier of its name, for the schemes the command asks for. -/
theorem initiateCommitments_ok {table : UpdateTable} {createTable : CreateTableBuilder}
    {md : CreateTableAndCommitmentMetadata} (h : initiateCommitments env table createTable s = .ok (md, s')) :
    s'.schemas = s.schemas ∧ s'.tableInsertQuorums = s.tableInsertQuorums ∧ s'.identifiers = s.identifiers ∧
    md = ⟨createTableWithRowNumberColumn createTable⟩ ∧
    ∃ ident, TableIdentifier.tryFromObjectName env.native.upper createTable.name = .ok ident ∧
      ∀ key, key ∈ s'.commitmentStorageMap ↔
        key ∈ s.commitmentStorageMap ∨ (key.1 = ident ∧ table.commitment.schemes.has key.2 = true) := by
  unfold initiateCommitments at h
  -- the two commands differ only in the commitments pallet's function and the snapshot URL
  cases hc : table.commitment with
  | Empty scheme =>
    rw [hc] at h
    simp only [Fallible.bind_eq_ok] at h
    obtain ⟨⟨md₀, m⟩, hp, h⟩ := h
    cases h
    obtain ⟨rfl, ident, cs, hident, hflags, hcreate⟩ :=
      processCreateTableAndInitiateCommitmentsWithScheme_ok env.native env.posql (Fallible.mapErr_eq_ok.mp hp)
    refine ⟨rfl, rfl, rfl, rfl, ident, hident, fun key => ?_⟩
    rw [setCommitments_commitmentStorageMap, CommitmentStorageMap.mem_createCommitments hcreate, hflags]
    rfl
  | FromSnapshot url snapshot =>
    rw [hc] at h
    simp only [Fallible.bind_eq_ok] at h
    obtain ⟨⟨md₀, m⟩, hp, h⟩ := h
    cases h
    obtain ⟨rfl, ident, cs, hident, hflags, hcreate⟩ :=
      processCreateTableFromSnapshotAndInitiateCommitments_ok env.native env.posql (Fallible.mapErr_eq_ok.mp hp)
    refine ⟨rfl, rfl, rfl, rfl, ident, hident, fun key => ?_⟩
    rw [setCommitments_commitmentStorageMap, CommitmentStorageMap.mem_createCommitments hcreate, hflags]
    rfl

/-- One table of `create_tables_inner`: its UUIDs are put into its DDL, it is registered under
its own identifier with that DDL, and the DDL, without its `WITH` clause, is committed to. -/
theorem createTable_ok {table t' : UpdateTable} (h : createTable ddl env table s = .ok (t', s')) :
    ∃ tableUuid columnUuids stmt b opts md,
      ddl.updateUuid tableUuid columnUuids table.createStatement = .ok stmt ∧
      ddl.parseRemoveWith stmt = .ok (b, opts) ∧
      initiateCommitments env table b
        (insertSchema table.ident stmt table.tableType table.source
          (insertTableUuid table.ident tableUuid columnUuids s)) = .ok (md, s') := by
  unfold createTable at h
  simp only [Fallible.bind_eq_ok] at h
  obtain ⟨⟨tableUuid, columnUuids⟩, -, stmt, hstmt, ⟨b, opts⟩, hparse, ⟨md, s₁⟩, hinit, printed, -, text, -,
    rebuilt, -, createStatement, -, h⟩ := h
  cases h
  exact ⟨tableUuid, columnUuids, stmt, b, opts, md, Fallible.ofExcept_eq_ok.mp hstmt,
    Fallible.ofExcept_eq_ok.mp hparse, hinit⟩

/-- One table of `create_tables_inner` fails as its commitment step does, once its UUIDs are in
its DDL and the DDL without its `WITH` clause is parsed. -/
theorem createTable_of_initiateCommitments_error {table : UpdateTable} {tableUuid : TableUuid}
    {columnUuids : ColumnUuidList} {stmt : CreateStatement} {b : CreateTableBuilder} {opts : Option (List UInt8)}
    {f : Fault DispatchError}
    (huuids : getOrGenerateUuidsForTable ddl table.createStatement table.ident s = .ok (tableUuid, columnUuids))
    (hstmt : ddl.updateUuid tableUuid columnUuids table.createStatement = .ok stmt)
    (hparse : ddl.parseRemoveWith stmt = .ok (b, opts))
    (hinit : initiateCommitments env table b (insertSchema table.ident stmt table.tableType table.source
      (insertTableUuid table.ident tableUuid columnUuids s)) = .error f) :
    createTable ddl env table s = .error f := by
  unfold createTable
  simp only [huuids, Fallible.mapErr_ok, Fallible.ok_bind, hstmt, Fallible.ofExcept_ok, hparse, hinit,
    Fallible.error_bind]

/-- `create_tables_inner` fails as its first table does, when the origin may edit schemas. -/
theorem createTablesInner_of_createTable_error {origin : Origin Acc} {tables : UpdateTableList} {table : UpdateTable}
    {rest : List UpdateTable} {owner : Option Acc} {f : Fault DispatchError}
    (hperm : ensureRootOrPermissioned s.permissions origin (.TablesPallet .EditSchema) = .ok owner)
    (htables : tables.toList = table :: rest) (h : createTable ddl env table s = .error f) :
    createTablesInner ddl env origin tables s = .error f := by
  unfold createTablesInner
  simp only [hperm, Fallible.ofExcept_ok, Fallible.ok_bind, htables, Fallible.mapState, h, Fallible.error_bind]

/-- Creating a table keeps every schema, insert quorum size and commitment there is. -/
theorem createTable_mono {table t' : UpdateTable} (h : createTable ddl env table s = .ok (t', s')) :
    (∀ k ∈ s.schemas, k ∈ s'.schemas) ∧ (∀ i ∈ s.tableInsertQuorums, i ∈ s'.tableInsertQuorums) ∧
      ∀ key ∈ s.commitmentStorageMap, key ∈ s'.commitmentStorageMap := by
  obtain ⟨tu, cu, stmt, b, opts, md, -, -, hinit⟩ := createTable_ok ddl env h
  obtain ⟨hsch, hq, -, -, ident, -, hmem⟩ := initiateCommitments_ok env hinit
  refine ⟨fun k hk => ?_, fun i hi => ?_, fun key hkey => (hmem key).mpr (Or.inl hkey)⟩
  · rw [hsch, insertSchema_schemas, insertTableUuid_schemas, AList.mem_insert]
    exact Or.inr hk
  · rw [hq, insertSchema_tableInsertQuorums, insertTableUuid_tableInsertQuorums, AList.mem_insert]
    exact Or.inr hi

/-- After creating a table, it has a schema and insert quorum sizes under its own identifier,
and commitments under the identifier of its DDL's name for the schemes its command asks for. -/
theorem createTable_registers {table t' : UpdateTable} (h : createTable ddl env table s = .ok (t', s')) :
    (table.ident.namespace_, table.ident.name) ∈ s'.schemas ∧ table.ident ∈ s'.tableInsertQuorums ∧
    ∃ tableUuid columnUuids stmt b opts ident,
      ddl.updateUuid tableUuid columnUuids table.createStatement = .ok stmt ∧
      ddl.parseRemoveWith stmt = .ok (b, opts) ∧
      TableIdentifier.tryFromObjectName env.native.upper b.name = .ok ident ∧
      ∀ x, table.commitment.schemes.has x = true → (ident, x) ∈ s'.commitmentStorageMap := by
  obtain ⟨tu, cu, stmt, b, opts, md, hstmt, hparse, hinit⟩ := createTable_ok ddl env h
  obtain ⟨hsch, hq, -, -, ident, hident, hmem⟩ := initiateCommitments_ok env hinit
  refine ⟨?_, ?_, tu, cu, stmt, b, opts, ident, hstmt, hparse, hident,
    fun x hx => (hmem (ident, x)).mpr (Or.inr ⟨rfl, hx⟩)⟩
  · rw [hsch, insertSchema_schemas, AList.mem_insert]
    exact Or.inl rfl
  · rw [hq, insertSchema_tableInsertQuorums, AList.mem_insert]
    exact Or.inl rfl

/-- `insert_initial_commitment` leaves the registry alone and commits to the parsed DDL's table
under the identifier of its name, for the snapshot's schemes. -/
theorem insertInitialCommitment_ok {ident : TableIdentifier} {statement stmt' : CreateStatement}
    {commit : Commitments TableCommitmentBytes} {snapshot : SnapshotUrl}
    (h : insertInitialCommitment ddl env ident statement commit snapshot s = .ok (stmt', s')) :
    s'.schemas = s.schemas ∧ s'.tableInsertQuorums = s.tableInsertQuorums ∧ s'.identifiers = s.identifiers ∧
    ∃ b ident', ddl.parse statement = .ok b ∧ TableIdentifier.tryFromObjectName env.native.upper b.name = .ok ident' ∧
      ∀ key, key ∈ s'.commitmentStorageMap ↔
        key ∈ s.commitmentStorageMap ∨ (key.1 = ident' ∧ commit.toFlags.has key.2 = true) := by
  unfold insertInitialCommitment at h
  simp only [Fallible.bind_eq_ok] at h
  obtain ⟨b, hb, ⟨md, m⟩, hp, printed, -, h⟩ := h
  cases h
  obtain ⟨-, ident', cs, hident, hflags, hcreate⟩ :=
    processCreateTableFromSnapshotAndInitiateCommitments_ok env.native env.posql (Fallible.mapErr_eq_ok.mp hp)
  refine ⟨rfl, rfl, rfl, b, ident', Fallible.ofExcept_eq_ok.mp hb, hident, fun key => ?_⟩
  rw [setSnapshot_commitmentStorageMap, setCommitments_commitmentStorageMap,
    CommitmentStorageMap.mem_createCommitments hcreate, hflags]

/-- One table of `create_tables_with_snapshot_and_commitment`: registered under its name, and its
DDL's table committed to under the identifier of the DDL's name, for the snapshot's schemes. -/
theorem createTableWithCommitment_ok {source : Source} {table t' : CreateTableRequest}
    (h : createTableWithCommitment ddl env source table s = .ok (t', s')) :
    (∀ k ∈ s.schemas, k ∈ s'.schemas) ∧ (∀ i ∈ s.tableInsertQuorums, i ∈ s'.tableInsertQuorums) ∧
    (∀ key ∈ s.commitmentStorageMap, key ∈ s'.commitmentStorageMap) ∧
    (table.tableName.namespace_, table.tableName.name) ∈ s'.schemas ∧ table.tableName ∈ s'.tableInsertQuorums ∧
    ∃ b ident, ddl.parse table.ddl = .ok b ∧ TableIdentifier.tryFromObjectName env.native.upper b.name = .ok ident ∧
      ∀ x, table.commitment.toFlags.has x = true → (ident, x) ∈ s'.commitmentStorageMap := by
  unfold createTableWithCommitment at h
  simp only [Fallible.bind_eq_ok] at h
  obtain ⟨⟨stmt', s₁⟩, hins, h⟩ := h
  cases h
  obtain ⟨hsch, hq, -, b, ident, hb, hident, hmem⟩ := insertInitialCommitment_ok ddl env hins
  refine ⟨fun k hk => ?_, fun i hi => ?_, fun key hkey => (hmem key).mpr (Or.inl hkey), ?_, ?_, b, ident, hb, hident,
    fun x hx => (hmem (ident, x)).mpr (Or.inr ⟨rfl, hx⟩)⟩
  · rw [hsch, insertSchema_schemas, AList.mem_insert]
    exact Or.inr hk
  · rw [hq, insertSchema_tableInsertQuorums, AList.mem_insert]
    exact Or.inr hi
  · rw [hsch, insertSchema_schemas, AList.mem_insert]
    exact Or.inl rfl
  · rw [hq, insertSchema_tableInsertQuorums, AList.mem_insert]
    exact Or.inl rfl

/-- The storage outside the pallet's registry: its versions, identifier lists, schemas, insert
quorum sizes and events emptied. The functions that write only these keep it. -/
def outsideRegistry (s : Runtime Acc H C) : Runtime Acc H C :=
  { s with
    namespaceVersions := ∅
    tableVersions := ∅
    identifiers := fun _ => default
    schemas := ∅
    tableInsertQuorums := ∅
    tablesEvents := [] }

theorem insertNamespaceUuid_outsideRegistry {n : TableNamespace} {v : TableVersion} {u : TableUuid}
    (h : insertNamespaceUuid n v u s = .ok s') : outsideRegistry s' = outsideRegistry s := by
  unfold insertNamespaceUuid at h
  split at h
  · cases h
  · cases h
    rfl

theorem createNamespace_outsideRegistry {origin : Origin Acc} {schemaName : ByteString} {version : TableVersion}
    {createStatement : CreateStatement} {tableType : TableType} {source : Source}
    (h : createNamespace ddl origin schemaName version createStatement tableType source s = .ok s') :
    outsideRegistry s' = outsideRegistry s := by
  unfold createNamespace at h
  simp only [Fallible.bind_eq_ok] at h
  obtain ⟨owner, -, rawSql, -, schemaNameS, -, h⟩ := h
  -- the namespace UUID the statement names, or a generated one: either is stored the same way
  split at h
  all_goals
    simp only [Fallible.bind_eq_ok] at h
    obtain ⟨namespaceUuid, -, s₁, hins, h⟩ := h
    cases h
    exact (insertNamespaceUuid_outsideRegistry hins :)

theorem updateNamespaceUuid_outsideRegistry {origin : Origin Acc} {namespace_ : TableNamespace}
    {version : TableVersion} {newUuid : TableUuid} (h : updateNamespaceUuid origin namespace_ version newUuid s = .ok s') :
    outsideRegistry s' = outsideRegistry s := by
  obtain ⟨-, -, h⟩ := Fallible.bind_eq_ok.mp h
  cases h
  rfl

theorem updateTableUuid_outsideRegistry {origin : Origin Acc} {table : TableIdentifier} {version : TableVersion}
    {newUuid : TableUuid} (h : updateTableUuid ddl origin table version newUuid s = .ok s') :
    outsideRegistry s' = outsideRegistry s := by
  unfold updateTableUuid at h
  simp only [Fallible.bind_eq_ok] at h
  obtain ⟨owner, -, h⟩ := h
  -- the stored DDL is rewritten when the table has one
  split at h
  · simp only [Fallible.bind_eq_ok] at h
    obtain ⟨updated, -, s₁, hs₁, h⟩ := h
    cases hs₁
    cases h
    rfl
  · simp only [Fallible.bind_eq_ok] at h
    obtain ⟨s₁, hs₁, h⟩ := h
    cases hs₁
    cases h
    rfl

theorem dropSingleTable_outsideRegistry {tableType : TableType} {ident : TableIdentifier}
    (h : dropSingleTable tableType ident s = .ok s') : outsideRegistry s' = outsideRegistry s := by
  unfold dropSingleTable at h
  simp only [Fallible.bind_eq_ok] at h
  obtain ⟨-, -, -, -, h⟩ := h
  cases h
  rfl

end Spec

end Tables

end SxtNode
