import SxtNode.Model.AttestationTypes
import SxtNode.Model.Commitments
import SxtNode.Model.IndexingTypes

/-!
# The runtime's storage, events and errors

One record holds the storage of the modelled pallets: `frame_system`'s block number,
`pallet_permissions`, `pallet_tables`, `pallet_commitments`, `pallet_indexing`,
`pallet_smartcontracts`, `pallet_keystore` and `pallet_attestation`. A storage map whose query is `ValueQuery` is read with its default.
Each pallet's events are kept as the list of every event it deposited, in order, so that a
run's history can be read back. The third-party code the calls use is `Env`.

Types are parameters: `Acc` the account id (ordered, as `BTreeSet` needs), `H` the runtime's
hash, `C` a table commitment.
-/

set_option autoImplicit false

namespace SxtNode

/-! ## `pallet_tables` data -/

/-- `TableVersion`. -/
abbrev TableVersion := UInt16

/-- `TableUuid`. -/
abbrev TableUuid := BoundedVec UInt8 IDENT_LENGTH

/-- `ColumnUuid`. -/
structure ColumnUuid where
  name : ByteString
  uuid : TableUuid
deriving DecidableEq

/-- `ColumnUuidList`. -/
abbrev ColumnUuidList := BoundedVec ColumnUuid MAX_COLS_PER_TABLE

/-- `MAX_SNAPSHOT_LEN`. -/
def MAX_SNAPSHOT_LEN : ℕ := 2048

/-- `SnapshotUrl`. -/
abbrev SnapshotUrl := BoundedVec UInt8 MAX_SNAPSHOT_LEN

/-- `MAX_IDENTIFIERS_PER_SOURCE_AND_MODE`. -/
def MAX_IDENTIFIERS_PER_SOURCE_AND_MODE : ℕ := 1024

/-- `IdentifierList`. -/
abbrev IdentifierList := BoundedVec TableIdentifier MAX_IDENTIFIERS_PER_SOURCE_AND_MODE

/-- `MAX_TABLES_PER_SCHEMA`. -/
def MAX_TABLES_PER_SCHEMA : ℕ := 1024

/-- `IndexerMode`. -/
inductive IndexerMode where
  | Core
  | Full
  | PriceFeeds
  | SmartContract (name : ByteString)
  | UserCreated (name : ByteString)
deriving DecidableEq

/-- `SourceAndMode`. -/
structure SourceAndMode where
  source : Source
  mode : IndexerMode
deriving DecidableEq

/-- `CommitmentCreationCmd`. -/
inductive CommitmentCreationCmd where
  | FromSnapshot (url : SnapshotUrl) (commitments : Commitments TableCommitmentBytes)
  | Empty (schemes : CommitmentSchemeFlags)

/-- `UpdateTable`. -/
structure UpdateTable where
  ident : TableIdentifier
  createStatement : CreateStatement
  tableType : TableType
  commitment : CommitmentCreationCmd
  source : Source

/-- `UpdateTableList`. -/
abbrev UpdateTableList := BoundedVec UpdateTable MAX_TABLES_PER_SCHEMA

/-- `CreateTableRequest`. -/
structure CreateTableRequest where
  tableUuid : TableUuid
  tableVersion : TableVersion
  columnUuids : ColumnUuidList
  tableName : TableIdentifier
  ddl : CreateStatement
  commitment : Commitments TableCommitmentBytes
  snapshotUrl : SnapshotUrl
  tableType : TableType

/-- `CreateTableList`. -/
abbrev CreateTableList := BoundedVec CreateTableRequest MAX_TABLES_PER_SCHEMA

/-- `pallet_tables::Error`. -/
inductive TablesError where
  | ArrowDeserializationError
  | TableIdentifierParsingError
  | IdentifierAlreadyExists
  | CreateStatementParseError
  | VersionAlreadyExists
  | NotAllSchemasRemovedError
  | NotAllInsertQuorumsRemovedError
  | NotAllCommitmentsRemovedError
  | TableNotFound
  | MissingCommitmentScheme
  | BoundedVecError
  | MissingSnapshot
  | SchemaNameParseError
  | GeneratedUuidError
  | TableUUIDError
  | UtfConversionError
  | UUIDGenerationError
deriving DecidableEq, Repr

/-! ## `pallet_smartcontracts` data -/

/-- `ContractAddress`. -/
abbrev ContractAddress := BoundedVec UInt8 64

/-- `ContractDetails`, with the fields the pallet reads. -/
structure ContractDetails where
  source : Source
  address : ContractAddress
  startingBlock : Option UInt64
  targetSchema : Option ByteString
  ddlStatement : Option CreateStatement

/-- `Contract`: a normal contract, or a proxy with its implementation. -/
inductive Contract where
  | Normal (details : ContractDetails)
  | Proxy (details : ContractDetails) (implementation : ContractDetails)

/-- The details a contract is added under. -/
def Contract.details : Contract → ContractDetails
  | .Normal d => d
  | .Proxy d _ => d

/-- `pallet_smartcontracts::Error`. -/
inductive SmartContractsError where
  | ExistingContractError
  | TooManyTables
  | MissingTargetSchema
  | MissingDdlStatement
deriving DecidableEq, Repr

/-! ## `pallet_indexing` errors -/

/-- `pallet_indexing::Error`. -/
inductive IndexingError where
  | UnauthorizedSubmitter
  | SchemaMismatch
  | NoData
  | InvalidBatch
  | LateBatch
  | InvalidTable
  | AlreadySubmitted
  | NativeDeserializationError
  | NativeEmptyRecordBatchError
  | NativeBatchReadError
  | NativeRecordBatchUnsupportedType
  | NativeRecordBatchContainsNulls
  | NativeRecordBatchInvalidTimezone
  | NativeRecordBatchUnexpectedSchemaDataMismatch
  | NativeRecordBatchDuplicateIdentifiers
  | NativeSerializationError
  | TableDeserializationError
  | TableSerializationError
deriving DecidableEq, Repr

/-- `From<NativeError> for Error`. -/
def IndexingError.ofNative : NativeError → IndexingError
  | .DeserializationError => .NativeDeserializationError
  | .EmptyRecordBatchError => .NativeEmptyRecordBatchError
  | .BatchReadError => .NativeBatchReadError
  | .RecordBatchUnsupportedType => .NativeRecordBatchUnsupportedType
  | .RecordBatchContainsNulls => .NativeRecordBatchContainsNulls
  | .RecordBatchInvalidTimezone => .NativeRecordBatchInvalidTimezone
  | .RecordBatchUnexpectedSchemaDataMismatch => .NativeRecordBatchUnexpectedSchemaDataMismatch
  | .RecordBatchDuplicateIdentifiers => .NativeRecordBatchDuplicateIdentifiers
  | .SerializationError => .NativeSerializationError

/-! ## `pallet_attestation` and `pallet_keystore` errors -/

/-- `pallet_attestation::Error`. -/
inductive AttestationError where
  | VerificationError
  | MaxAttestationKeys
  | PublicKeyAlreadyRegistered
  | AccountIdAlreadyLinked
  | InsufficientPermissions
  | AttestationSignatureError
  | MaxAttestationsForBlockError
  | AttestationAlreadyRecordedError
  | CannotAttestFutureBlock
  | CannotAttestCurrentBlock
  | KeyNotFound
deriving DecidableEq, Repr

/-- `pallet_keystore::Error`. -/
inductive KeystoreError where
  | VerificationError
  | AccountAlreadyRegistered
  | KeyNotFound
  | NoKeysRegistered
  | NoEthereumKeyRegistered
  | EthereumKeyAlreadyRegistered
  | SignatureVerificationFailed
  | KeyMismatch
deriving DecidableEq, Repr

/-- `pallet_system_tables::Error`, with the variants the pallet returns. -/
inductive SystemTablesError where
  | MissingExpectedField
  | LateNonce
  | FutureNonce
  | InvalidSessionKeys
  | ErrorParsingNominations
  | EmptyNominationSet
deriving DecidableEq, Repr

/-- `DispatchError`: `BadOrigin`, a module error of a modelled pallet, a module error of a pallet
whose calls are parameters (by the pallet's and the error's names), or any other error. -/
inductive DispatchError where
  | BadOrigin
  | Permissions (e : OriginError)
  | Tables (e : TablesError)
  | Commitments (e : CommitmentsError)
  | Indexing (e : IndexingError)
  | SmartContracts (e : SmartContractsError)
  | Attestation (e : AttestationError)
  | Keystore (e : KeystoreError)
  | SystemTables (e : SystemTablesError)
  | Module (pallet error : String)
  | Other (msg : String)
deriving DecidableEq, Repr

/-- An origin check's error as a dispatch error. -/
def DispatchError.ofOrigin : OriginError → DispatchError
  | .BadOrigin => .BadOrigin
  | e => .Permissions e

/-! ## Events -/

section Events

variable (Acc : Type) [LinearOrder Acc] (H : Type)

/-- `pallet_indexing::Event`; the data of an event is the postcard bytes of a table. -/
inductive IndexingEvent where
  | DataSubmitted (who : Acc) (submission : DataSubmission H)
  | QuorumReached (quorum : DataQuorum Acc H) (data : OnChainTableBytes)
  | SystemTableUpdate (table : TableIdentifier) (data : OnChainTableBytes)
  | SystemTableError (table : TableIdentifier) (error : DispatchError) (data : OnChainTableBytes)
  | QuorumEmptyBlock (table : TableIdentifier) (blockNumber : UInt64)
      (agreements dissents : SubmitterList Acc)

/-- `pallet_tables::Event`. -/
inductive TablesEvent where
  | NamespaceCreated (createSchema : CreateStatement) (version : TableVersion)
      (namespaceUuid : TableUuid) (tableType : TableType) (source : Source)
  | NamespaceUuidUpdated (oldUuid newUuid : TableUuid) (version : TableVersion)
      (namespace_ : TableNamespace)
  | TableUuidUpdated (oldUuid newUuid : TableUuid) (version : TableVersion) (table : TableIdentifier)
  | SchemaUpdated (owner : Option Acc) (tables : List UpdateTable)
  | TablesCreatedWithCommitments (sourceAndMode : SourceAndMode) (tableList : List CreateTableRequest)
  | TableDropped (owner : Option Acc) (tableType : TableType) (ident : TableIdentifier) (source : Source)

/-- `pallet_smartcontracts::Event`. -/
inductive SmartContractsEvent where
  | SmartContractAdded (owner : Option Acc) (source : Source) (address : ContractAddress)
  | SmartContractRemoved (owner : Option Acc) (source : Source) (address : ContractAddress)

/-- `pallet_attestation::Event`. -/
inductive AttestationEvent where
  | BlockAttested (blockNumber : UInt32) (attestation : Attestation H) (who : Acc)

/-- `pallet_keystore::Event`. -/
inductive KeystoreEvent where
  | EthereumKeyRegistered (who : Acc) (key : EthereumKey)
  | EthereumKeyRemoved (who : Acc)

end Events

/-! ## The storage -/

/-- The storage of the modelled pallets, and the events each has deposited. -/
structure Runtime (Acc : Type) [LinearOrder Acc] (H C : Type) where
  /-- `frame_system::block_number`. The runtime's `BlockNumber` is a `u32`; the model counts
  in `ℕ`, as no modelled function advances it, and the copies it makes into quorums are `ℕ` too. -/
  blockNumber : ℕ
  permissions : Permissions Acc
  columnVersions : StorageMap (TableIdentifier × TableVersion) ColumnUuidList
  namespaceVersions : StorageMap (TableNamespace × TableVersion) TableUuid
  tableVersions : StorageMap (TableIdentifier × TableVersion) TableUuid
  identifiers : TableType → IdentifierList
  schemas : StorageMap (TableNamespace × TableName) CreateStatement
  snapshots : StorageMap TableIdentifier SnapshotUrl
  tableInsertQuorums : StorageMap TableIdentifier InsertQuorumSize
  tableSources : StorageMap TableIdentifier Source
  tablesEvents : List (TablesEvent Acc)
  commitmentStorageMap : CommitmentStorageMap C
  submissions : StorageMap (BatchId × H) (SubmittersByScope Acc)
  finalData : StorageMap BatchId (DataQuorum Acc H)
  blockNumbers : StorageMap TableIdentifier UInt64
  indexingEvents : List (IndexingEvent Acc H)
  contractStorage : StorageMap (Source × ContractAddress) Contract
  contractTables : StorageMap (Source × ContractAddress) (BoundedVec (TableIdentifier × TableType) 1024)
  smartContractsEvents : List (SmartContractsEvent Acc)
  keys : StorageMap Acc UserKeystore
  attestations : StorageMap UInt32 (BoundedVec (Attestation H) 64)
  lastForwardedBlock : Option UInt32
  attestationEvents : List (AttestationEvent Acc H)
  keystoreEvents : List (KeystoreEvent Acc)

/-- The storage of a new chain: every map empty, no permissions, no events. -/
def Runtime.genesis {Acc : Type} [LinearOrder Acc] {H C : Type} : Runtime Acc H C where
  blockNumber := 0
  permissions := fun _ => none
  columnVersions := ∅
  namespaceVersions := ∅
  tableVersions := ∅
  identifiers := fun _ => default
  schemas := ∅
  snapshots := ∅
  tableInsertQuorums := ∅
  tableSources := ∅
  tablesEvents := []
  commitmentStorageMap := ∅
  submissions := ∅
  finalData := ∅
  blockNumbers := ∅
  indexingEvents := []
  contractStorage := ∅
  contractTables := ∅
  smartContractsEvents := []
  keys := ∅
  attestations := ∅
  lastForwardedBlock := none
  attestationEvents := []
  keystoreEvents := []

/-- The third-party code the runtime calls. -/
structure Env (C H : Type) where
  native : NativeEnv
  posql : PosqlEnv C
  /-- `T::Hashing::hash` of the SCALE encoding of `(data, block_number)`. -/
  hashSubmission : RowData → Option UInt64 → H
  /-- `pallet_system_tables::process_system_table`: whether processing a staking table's insert
  fails, and with which error. -/
  processSystemTable : TableIdentifier → OnChainTable → Except DispatchError Unit

end SxtNode
