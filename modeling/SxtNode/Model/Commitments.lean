import SxtNode.Model.CommitmentSql

/-!
# The commitments pallet and the native `process_insert`

`pallet_commitments` keeps the commitments of every table in `CommitmentStorageMap`, a double
map from table identifier and scheme to the bincode bytes of a table commitment. Every value
written there is an encoding made by `TryFrom<&TableCommitment<C>> for TableCommitmentBytes`,
which fits the bound, and bincode decodes it back to the same commitment; the model stores the
commitment itself. Creating a table commits to its empty table (or checks a snapshot) and
stores the commitments under the identifier parsed from the definition's name, expecting the
name to convert; an insert goes through the host function `process_insert` and replaces the
commitments, expecting the schemes to be the same. The runtime API reads the commitments of
several tables at once, under the first scheme that covers all of them.
-/

set_option autoImplicit false

namespace SxtNode

/-- `MAX_COLS_PER_TABLE`. -/
def MAX_COLS_PER_TABLE : ℕ := 64

/-- `TableCommitmentToBytesError`; bincode's encoding into a vector does not fail. -/
inductive TableCommitmentToBytesError where
  | TooManyColumns (numColumns : ℕ)
deriving DecidableEq, Repr

/-- `NativeCommitmentError`. -/
inductive NativeCommitmentError where
  | CommitmentDeserialization
  | TableDeserialization
  | OutOfScalarBounds
  | ColumnCommitmentsMismatch
  | TableCommitmentRangeMismatch
  | TableCommitmentColumnOrderMismatch
  | NoCommitments
  | CommitmentSerialization
  | TableSerialization
deriving DecidableEq, Repr

/-- `From<ProcessInsertError> for NativeCommitmentError`. -/
def NativeCommitmentError.ofProcessInsert : ProcessInsertError → NativeCommitmentError
  | .ColumnCommitmentsMismatch => .ColumnCommitmentsMismatch
  | .OutOfScalarBounds => .OutOfScalarBounds
  | .TableCommitmentRangeMismatch => .TableCommitmentRangeMismatch
  | .TableCommitmentColumnOrderMismatch => .TableCommitmentColumnOrderMismatch
  | .NoCommitments => .NoCommitments

/-- `pallet_commitments::Error`. -/
inductive CommitmentsError where
  | CommitmentWithTooManyColumns
  | SerializeCommitment
  | DeserializeCommitment
  | SerializeInsertData
  | DeserializeInsertData
  | InappropriateSnapshotCommitments
  | CreateTableWithNoColumns
  | CreateTableWithInvalidTableIdentifierCount
  | CreateTableWithDuplicateIdentifiers
  | CreateTableWithReservedMetadataPrefix
  | DecimalColumnWithoutPrecision
  | DecimalColumnWithInvalidPrecision
  | DecimalColumnWithInvalidScale
  | SupportedColumnWithUnsupportedParameter
  | ColumnWithUnsupportedDataType
  | ColumnWithoutNotNull
  | ColumnWithUnsupportedOption
  | NativeSerializeCommitment
  | NativeDeserializeCommitment
  | NativeSerializeInsertData
  | NativeDeserializeInsertData
  | ExistingCommitmentsRangeMismatch
  | ExistingCommitmentsColumnOrderMismatch
  | NoExistingCommitments
  | InsertDataOutOfBounds
  | InsertDataDoesntMatchExistingCommitments
  | TableAlreadyExists
deriving DecidableEq, Repr

namespace CommitmentsError

/-- `From<TableCommitmentToBytesError>`. -/
def ofToBytes : TableCommitmentToBytesError → CommitmentsError
  | .TooManyColumns _ => .CommitmentWithTooManyColumns

/-- `From<InvalidCreateTable>`, through the conversions of its sources. -/
def ofInvalidCreateTable : InvalidCreateTable → CommitmentsError
  | .NoColumns => .CreateTableWithNoColumns
  | .UnsupportedColumnType .UnconstrainedDecimal => .DecimalColumnWithoutPrecision
  | .UnsupportedColumnType (.DecimalPrecision _) => .DecimalColumnWithInvalidPrecision
  | .UnsupportedColumnType (.DecimalScale _) => .DecimalColumnWithInvalidScale
  | .UnsupportedColumnType (.DataTypeParameter _) => .SupportedColumnWithUnsupportedParameter
  | .UnsupportedColumnType (.DataType _) => .ColumnWithUnsupportedDataType
  | .NumTableIdentifiers _ => .CreateTableWithInvalidTableIdentifierCount
  | .DuplicateIdentifiers => .CreateTableWithDuplicateIdentifiers
  | .ReservedMetadataPrefix => .CreateTableWithReservedMetadataPrefix
  | .ColumnOptions (.Required _) => .ColumnWithoutNotNull
  | .ColumnOptions (.Unsupported _) => .ColumnWithUnsupportedOption

/-- `From<ProcessCreateTableFromSnapshotError>`. -/
def ofSnapshot : ProcessCreateTableFromSnapshotError → CommitmentsError
  | .InvalidCreateTable e => ofInvalidCreateTable e
  | .InappropriateSnapshotCommitments => .InappropriateSnapshotCommitments

/-- `From<NativeCommitmentError>`. -/
def ofNative : NativeCommitmentError → CommitmentsError
  | .CommitmentDeserialization => .NativeDeserializeCommitment
  | .TableDeserialization => .NativeDeserializeInsertData
  | .OutOfScalarBounds => .InsertDataOutOfBounds
  | .ColumnCommitmentsMismatch => .InsertDataDoesntMatchExistingCommitments
  | .TableCommitmentRangeMismatch => .ExistingCommitmentsRangeMismatch
  | .TableCommitmentColumnOrderMismatch => .ExistingCommitmentsColumnOrderMismatch
  | .NoCommitments => .NoExistingCommitments
  | .CommitmentSerialization => .NativeSerializeCommitment
  | .TableSerialization => .NativeSerializeInsertData

end CommitmentsError

section Env

variable {C : Type} (native : NativeEnv) (env : PosqlEnv C)

/-- `TryFrom<&TableCommitment<C>> for TableCommitmentBytes`: at most `MAX_COLS_PER_TABLE`
columns, and the encoding is expected to fit `TABLE_COMMITMENT_MAX_LENGTH`. -/
def tableCommitmentToBytes (c : C) : Fallible TableCommitmentToBytesError C :=
  let numColumns := (env.columnMetadata c).length
  if numColumns > MAX_COLS_PER_TABLE then Fallible.fail (.TooManyColumns numColumns)
  else if env.encodedLen c ≤ TABLE_COMMITMENT_MAX_LENGTH then .ok c
  else Fallible.abort
    "TableCommitment that doesn't exceed maximum num columns shouldn't serialize to more than TABLE_COMMITMENT_MAX_LENGTH bytes"

/-- `TryFrom<PerCommitmentScheme<..>> for TableCommitmentBytesPerCommitmentScheme`. -/
def commitmentsToBytes (c : Commitments C) : Fallible TableCommitmentToBytesError (Commitments C) :=
  c.traverse fun _ x => tableCommitmentToBytes env x

/-- The host function `process_insert`: decode the insert, process it, and encode the insert
with its metadata column and the new commitments. -/
def nativeProcessInsert (insertDataBytes : OnChainTableBytes) (previousCommitments : Commitments C) :
    Fallible NativeCommitmentError (OnChainTableBytes × Commitments C) := do
  let insertData ← Fallible.ofExcept (fun _ => .TableDeserialization)
    (OnChainTable.tryFromBytes native.upper insertDataBytes)
  let (metadata, newCommitments) ← (processInsert env native.upper insertData previousCommitments).mapErr
    NativeCommitmentError.ofProcessInsert
  let tableBytes ← Fallible.ofExcept (fun _ => .TableSerialization)
    (OnChainTableBytes.tryFromTable native metadata.insertWithMetaColumns)
  let data ← (commitmentsToBytes env newCommitments).mapErr fun _ => .CommitmentSerialization
  pure (tableBytes, data)

/-- The storage handler of the pallet's commitment map. -/
abbrev handler : CommitmentMapImplementor (CommitmentStorageMap C) TableIdentifier (fun _ => C) :=
  commitmentStorageMapHandler C

/-- `process_create_table_and_initiate_commitments_with_scheme`. -/
def processCreateTableAndInitiateCommitmentsWithScheme (createTable : CreateTableBuilder)
    (scheme : CommitmentSchemeFlags) (m : CommitmentStorageMap C) :
    Fallible CommitmentsError (CreateTableAndCommitmentMetadata × CommitmentStorageMap C) := do
  let (metadata, emptyCommitments) ←
    (processCreateTable env native.upper createTable scheme).mapErr CommitmentsError.ofInvalidCreateTable
  let tableIdentifier ← Fallible.expectOk
    (TableIdentifier.tryFromObjectName native.upper metadata.tableWithMetaColumns.name)
    "Create table identifier already validated by process_create_table"
  let emptyCommitmentsBytes ← (commitmentsToBytes env emptyCommitments).mapErr CommitmentsError.ofToBytes
  let m ← Fallible.ofExcept (fun _ => .TableAlreadyExists)
    (handler.createCommitments m tableIdentifier emptyCommitmentsBytes)
  pure (metadata, m)

/-- `process_create_table_and_initiate_commitments_with_dynamic_dory`. -/
def processCreateTableAndInitiateCommitmentsWithDynamicDory (createTable : CreateTableBuilder)
    (m : CommitmentStorageMap C) :
    Fallible CommitmentsError (CreateTableAndCommitmentMetadata × CommitmentStorageMap C) :=
  processCreateTableAndInitiateCommitmentsWithScheme native env createTable ⟨false, true⟩ m

/-- `process_create_table_from_snapshot_and_initiate_commitments`: the snapshot bytes are
decoded first. -/
def processCreateTableFromSnapshotAndInitiateCommitments (createTable : CreateTableBuilder)
    (snapshotCommitmentBytes : Commitments TableCommitmentBytes)
    (m : CommitmentStorageMap C) :
    Fallible CommitmentsError (CreateTableAndCommitmentMetadata × CommitmentStorageMap C) := do
  let snapshotCommitments ← snapshotCommitmentBytes.traverse fun scheme bytes =>
    Fallible.ofExcept (fun _ => .DeserializeCommitment) (env.decode scheme bytes.toList)
  let (metadata, snapshotCommitments) ←
    (processCreateTableFromSnapshot env native.upper createTable snapshotCommitments).mapErr
      CommitmentsError.ofSnapshot
  let snapshotCommitmentBytes ← (commitmentsToBytes env snapshotCommitments).mapErr CommitmentsError.ofToBytes
  let tableIdentifier ← Fallible.expectOk
    (TableIdentifier.tryFromObjectName native.upper metadata.tableWithMetaColumns.name)
    "Create table identifier already validated by process_create_table_from_snapshot"
  let m ← Fallible.ofExcept (fun _ => .TableAlreadyExists)
    (handler.createCommitments m tableIdentifier snapshotCommitmentBytes)
  pure (metadata, m)

/-- Creating a table stores commitments of the selected schemes under the identifier of the
definition's name. -/
theorem processCreateTableAndInitiateCommitmentsWithScheme_ok {createTable : CreateTableBuilder}
    {scheme : CommitmentSchemeFlags} {m m' : CommitmentStorageMap C} {md : CreateTableAndCommitmentMetadata}
    (h : processCreateTableAndInitiateCommitmentsWithScheme native env createTable scheme m = .ok (md, m')) :
    md = ⟨createTableWithRowNumberColumn createTable⟩ ∧
    ∃ ident cs, TableIdentifier.tryFromObjectName native.upper createTable.name = .ok ident ∧
      cs.toFlags = scheme ∧ handler.createCommitments m ident cs = .ok m' := by
  unfold processCreateTableAndInitiateCommitmentsWithScheme at h
  simp only [Fallible.bind_eq_ok] at h
  obtain ⟨⟨md₀, empty⟩, hp, ident, hident, cs, hcs, m₀, hm, h⟩ := h
  cases h
  obtain ⟨rfl, hflags⟩ := processCreateTable_ok env (Fallible.mapErr_eq_ok.mp hp)
  refine ⟨rfl, ident, cs, Fallible.expectOk_eq_ok.mp hident, ?_, Fallible.ofExcept_eq_ok.mp hm⟩
  rw [Commitments.toFlags_traverse (Fallible.mapErr_eq_ok.mp hcs), hflags]

/-- The `expect` on the identifier fires for every definition that `process_create_table`
accepts and whose name does not convert. -/
theorem processCreateTableAndInitiateCommitmentsWithScheme_of_name_error {createTable : CreateTableBuilder}
    {scheme : CommitmentSchemeFlags} {m : CommitmentStorageMap C} {r : CreateTableAndCommitmentMetadata × Commitments C}
    (h : processCreateTable env native.upper createTable scheme = .ok r)
    (hname : (TableIdentifier.tryFromObjectName native.upper createTable.name).isOk = false) :
    processCreateTableAndInitiateCommitmentsWithScheme native env createTable scheme m =
      .error (.panic "Create table identifier already validated by process_create_table") := by
  obtain ⟨md, cs⟩ := r
  obtain ⟨rfl, -⟩ := processCreateTable_ok env h
  cases hconv : TableIdentifier.tryFromObjectName native.upper createTable.name with
  | ok ident => simp [hconv, Except.isOk, Except.toBool] at hname
  | error e =>
    -- the metadata's name is the definition's: the row number column adds a column only
    have hmeta : (createTableWithRowNumberColumn createTable).name = createTable.name := rfl
    simp [processCreateTableAndInitiateCommitmentsWithScheme, h, hmeta, hconv, Fallible.expectOk]

/-- Creating a table from a snapshot stores commitments of the snapshot's schemes under the
identifier of the definition's name. -/
theorem processCreateTableFromSnapshotAndInitiateCommitments_ok {createTable : CreateTableBuilder}
    {snapshotCommitmentBytes : Commitments TableCommitmentBytes} {m m' : CommitmentStorageMap C}
    {md : CreateTableAndCommitmentMetadata}
    (h : processCreateTableFromSnapshotAndInitiateCommitments native env createTable snapshotCommitmentBytes m =
      .ok (md, m')) :
    md = ⟨createTableWithRowNumberColumn createTable⟩ ∧
    ∃ ident cs, TableIdentifier.tryFromObjectName native.upper createTable.name = .ok ident ∧
      cs.toFlags = snapshotCommitmentBytes.toFlags ∧ handler.createCommitments m ident cs = .ok m' := by
  unfold processCreateTableFromSnapshotAndInitiateCommitments at h
  simp only [Fallible.bind_eq_ok] at h
  obtain ⟨decoded, hdecoded, ⟨md₀, snapshot⟩, hp, cs, hcs, ident, hident, m₀, hm, h⟩ := h
  cases h
  obtain ⟨rfl, hflags⟩ := processCreateTableFromSnapshot_ok env (Fallible.mapErr_eq_ok.mp hp)
  refine ⟨rfl, ident, cs, Fallible.expectOk_eq_ok.mp hident, ?_, Fallible.ofExcept_eq_ok.mp hm⟩
  rw [Commitments.toFlags_traverse (Fallible.mapErr_eq_ok.mp hcs), hflags, Commitments.toFlags_traverse hdecoded]

/-- `process_insert_and_update_commitments`: runs the host's `process_insert` on the table's
commitments and stores the result, expecting the same schemes back. -/
def processInsertAndUpdateCommitments (table : TableIdentifier) (insertData : OnChainTable)
    (m : CommitmentStorageMap C) :
    Fallible CommitmentsError (InsertAndCommitmentMetadata × CommitmentStorageMap C) := do
  let previousCommitments := handler.getCommitments m table
  let tableBytes ← Fallible.ofExcept (fun _ => .SerializeInsertData)
    (OnChainTableBytes.tryFromTable native insertData)
  let (insertWithMetaColumnsBytes, commitmentsBytes) ←
    (nativeProcessInsert native env tableBytes previousCommitments).mapErr CommitmentsError.ofNative
  let m ← Fallible.expectOk (handler.updateCommitments m table commitmentsBytes)
    "process_insert guarantees to update the same commitment schemes that were provided to it"
  let insertWithMetaColumns ← Fallible.ofExcept (fun _ => .DeserializeInsertData)
    (OnChainTable.tryFromBytes native.upper insertWithMetaColumnsBytes)
  pure (⟨insertWithMetaColumns⟩, m)

/-- A successful insert stored what `update_commitments` returned for the table's commitments
after `process_insert`. -/
theorem processInsertAndUpdateCommitments_ok {table : TableIdentifier} {insertData : OnChainTable}
    {m m' : CommitmentStorageMap C} {md : InsertAndCommitmentMetadata}
    (h : processInsertAndUpdateCommitments native env table insertData m = .ok (md, m')) :
    ∃ tableBytes insertBytes cs,
      nativeProcessInsert native env tableBytes (handler.getCommitments m table) = .ok (insertBytes, cs) ∧
      handler.updateCommitments m table cs = .ok m' := by
  unfold processInsertAndUpdateCommitments at h
  simp only [Fallible.bind_eq_ok] at h
  obtain ⟨tableBytes, -, ⟨insertBytes, cs⟩, hprocess, m₁, hupdate, insertWithMetaColumns, -, h⟩ := h
  cases h
  exact ⟨tableBytes, insertBytes, cs, Fallible.mapErr_eq_ok.mp hprocess, Fallible.expectOk_eq_ok.mp hupdate⟩

end Env

/-! ## Reading the commitments -/

section Queries

variable {C : Type}

/-- `AnyTableCommitments`: the commitments of several tables, all of one scheme. -/
abbrev AnyTableCommitments (C : Type) := AnyCommitmentScheme (fun _ => List C)

/-- `table_commitments`: the commitments of the tables under the scheme, in order, if all of
them exist. -/
def tableCommitments (m : CommitmentStorageMap C) (tableIdentifiers : List TableIdentifier)
    (commitmentScheme : CommitmentScheme) : Option (List C) :=
  tableIdentifiers.mapM fun tableIdentifier => m.lookup (tableIdentifier, commitmentScheme)

/-- `table_commitments_any_scheme`: the commitments of the tables under the first scheme,
hyper-kzg first, that covers all of them. -/
def tableCommitmentsAnyScheme (m : CommitmentStorageMap C) (tableIdentifiers : List TableIdentifier) :
    Option (AnyTableCommitments C) :=
  CommitmentSchemeFlags.all.schemes.findSome? fun commitmentScheme =>
    (tableCommitments m tableIdentifiers commitmentScheme).map commitmentScheme.intoAnyConcrete

end Queries

end SxtNode
