import SxtNode.Model.OnChainTable

/-!
# Arrow record batches and their conversion to on-chain tables

The arrow side of the native interface: data types, arrays, record batches with the shape
arrow guarantees (one column per field, of the field's type, all as long as the batch's row
count; zero columns are allowed), `TryFrom<&ArrayRef> for OnChainColumn`,
`TryFrom<RecordBatch> for OnChainTable`, and the host function `record_batch_to_onchain`.
Arrow's IPC stream reader, the timezone parser and postcard are third-party code and enter as
the fields of `NativeEnv`.
-/

set_option autoImplicit false

namespace SxtNode

namespace Arrow

/-- arrow's `TimeUnit`. -/
inductive TimeUnit where
  | Second
  | Millisecond
  | Microsecond
  | Nanosecond
deriving DecidableEq, Repr

/-- arrow's `DataType`, with the types the conversion tells apart; every other one is `Other`. -/
inductive DataType where
  | Boolean
  | Int8
  | Int16
  | Int32
  | Int64
  | UInt8
  | Decimal128 (precision : UInt8) (scale : Int8)
  | Decimal256 (precision : UInt8) (scale : Int8)
  | Utf8
  | Binary
  | Timestamp (unit : TimeUnit) (timezone : Option String)
  | Other (name : String)
deriving DecidableEq, Repr

/-- The values of an arrow array, by its concrete array type (what `downcast_ref` finds).
Boolean, string and binary slots read as options, `None` at a null. -/
inductive ArrayData where
  | Boolean (values : List (Option Bool))
  | Int8 (values : List Int8)
  | Int16 (values : List Int16)
  | Int32 (values : List Int32)
  | Int64 (values : List Int64)
  | UInt8 (values : List UInt8)
  | Decimal128 (values : List (BitVec 128))
  | Decimal256 (values : List (BitVec 256))
  | Utf8 (values : List (Option String))
  | Binary (values : List (Option (List UInt8)))
  | TimestampSecond (values : List Int64)
  | TimestampMillisecond (values : List Int64)
  | TimestampMicrosecond (values : List Int64)
  | TimestampNanosecond (values : List Int64)
  | Other (length : ℕ)
deriving DecidableEq

/-- The number of slots. -/
def ArrayData.len : ArrayData → ℕ
  | Boolean v => v.length
  | Int8 v => v.length
  | Int16 v => v.length
  | Int32 v => v.length
  | Int64 v => v.length
  | UInt8 v => v.length
  | Decimal128 v => v.length
  | Decimal256 v => v.length
  | Utf8 v => v.length
  | Binary v => v.length
  | TimestampSecond v => v.length
  | TimestampMillisecond v => v.length
  | TimestampMicrosecond v => v.length
  | TimestampNanosecond v => v.length
  | Other n => n

/-- `ArrayRef`: an array's data type, values and logical null count. -/
structure ArrayRef where
  dataType : DataType
  data : ArrayData
  nullCount : ℕ
deriving DecidableEq

/-- A schema `Field`. -/
structure Field where
  name : String
  dataType : DataType
  nullable : Bool
deriving DecidableEq

/-- `RecordBatch`: one column per field, of the field's type, each as long as the row count. -/
structure RecordBatch where
  fields : List Field
  columns : List ArrayRef
  rowCount : ℕ
  types : columns.map ArrayRef.dataType = fields.map Field.dataType
  column_len : ∀ c ∈ columns, c.data.len = rowCount

/-- What arrow's IPC stream reader does with a byte string: it fails to open, has no first
batch, fails to read it, or reads a batch. -/
inductive IpcRead where
  | OpenFailed
  | NoBatch
  | BatchFailed
  | Batch (batch : RecordBatch)

end Arrow

/-- `ArrowToOnChainColumnError`. -/
inductive ArrowToOnChainColumnError where
  | UnsupportedType (dataType : Arrow.DataType)
  | UnsupportedNull
  | InvalidTimestamp
  | UnexpectedSchemaDataMismatch
deriving DecidableEq

/-- `ArrowToOnChainTableError`. -/
inductive ArrowToOnChainTableError where
  | Column (error : ArrowToOnChainColumnError)
  | DuplicateIdentifier
deriving DecidableEq

/-- `NativeError`. -/
inductive NativeError where
  | DeserializationError
  | EmptyRecordBatchError
  | BatchReadError
  | RecordBatchUnsupportedType
  | RecordBatchContainsNulls
  | RecordBatchInvalidTimezone
  | RecordBatchUnexpectedSchemaDataMismatch
  | RecordBatchDuplicateIdentifiers
  | SerializationError
deriving DecidableEq, Repr

/-- `From<ArrowToOnChainTableError> for NativeError`. -/
def NativeError.ofArrow : ArrowToOnChainTableError → NativeError
  | .Column (.UnsupportedType _) => .RecordBatchUnsupportedType
  | .Column .UnsupportedNull => .RecordBatchContainsNulls
  | .Column .InvalidTimestamp => .RecordBatchInvalidTimezone
  | .Column .UnexpectedSchemaDataMismatch => .RecordBatchUnexpectedSchemaDataMismatch
  | .DuplicateIdentifier => .RecordBatchDuplicateIdentifiers

/-- The third-party code the native interface runs on. -/
structure NativeEnv where
  /-- Unicode's uppercase mapping. -/
  upper : CaseMapping
  /-- `PoSQLTimeZone::try_from` on a timezone string. -/
  parseTimeZone : String → Except Unit PoSQLTimeZone
  /-- arrow's `StreamReader::try_new` followed by its first `next()`. -/
  readFirstBatch : List UInt8 → Arrow.IpcRead
  /-- The length of `postcard::to_allocvec` of a table. -/
  encodedLen : OnChainTable → ℕ

namespace OnChainColumn

open Arrow in
/-- `TryFrom<&ArrayRef> for OnChainColumn`. -/
def tryFromArray (parseTimeZone : String → Except Unit PoSQLTimeZone) (a : ArrayRef) :
    Fallible ArrowToOnChainColumnError OnChainColumn :=
  if a.nullCount ≠ 0 then Fallible.fail .UnsupportedNull else
  match a.dataType, a.data with
  | .Boolean, .Boolean v => match v.mapM id with
    | some b => .ok (Boolean b)
    | none => Fallible.fail .UnsupportedNull
  | .Int8, .Int8 v => .ok (TinyInt v)
  | .Int16, .Int16 v => .ok (SmallInt v)
  | .Int32, .Int32 v => .ok (Int v)
  | .Int64, .Int64 v => .ok (BigInt v)
  | .Decimal128 38 0, .Decimal128 v => .ok (Int128 v)
  | .Decimal256 p s, data =>
    if p.toNat ≤ 75 then do
      -- the precision is checked before the array is downcast
      let precision ← Fallible.expect (Precision.new p) "precision is less than 76"
      match data with
      | .Decimal256 v => .ok (Decimal75 precision s v)
      | _ => Fallible.fail .UnexpectedSchemaDataMismatch
    else Fallible.fail (.UnsupportedType a.dataType)
  | .Utf8, .Utf8 v => match v.mapM id with
    | some s => .ok (VarChar s)
    | none => Fallible.fail .UnsupportedNull
  | .Binary, .Binary v => match v.mapM id with
    | some b => .ok (VarBinary b)
    | none => Fallible.fail .UnsupportedNull
  | .Timestamp unit tz, data => do
    let (u, values) ← match unit, data with
      | .Second, .TimestampSecond v => .ok (PoSQLTimeUnit.Second, v)
      | .Millisecond, .TimestampMillisecond v => .ok (PoSQLTimeUnit.Millisecond, v)
      | .Microsecond, .TimestampMicrosecond v => .ok (PoSQLTimeUnit.Microsecond, v)
      | .Nanosecond, .TimestampNanosecond v => .ok (PoSQLTimeUnit.Nanosecond, v)
      | _, _ => Fallible.fail .UnexpectedSchemaDataMismatch
    let zone ← match tz with
      | none => .ok none
      | some z => match parseTimeZone z with
        | .ok zone => .ok (some zone)
        | .error _ => Fallible.fail .InvalidTimestamp
    .ok (TimestampTZ u zone values)
  | .Boolean, _ | .Int8, _ | .Int16, _ | .Int32, _ | .Int64, _ | .Utf8, _ | .Binary, _ =>
    Fallible.fail .UnexpectedSchemaDataMismatch
  | dataType, _ => Fallible.fail (.UnsupportedType dataType)

end OnChainColumn

namespace OnChainTable

/-- `TryFrom<RecordBatch> for OnChainTable`: converts every column, rejects a batch whose field
names repeat, and builds the table, expecting that to succeed. -/
def tryFromRecordBatch (upper : CaseMapping) (parseTimeZone : String → Except Unit PoSQLTimeZone)
    (batch : Arrow.RecordBatch) : Fallible ArrowToOnChainTableError OnChainTable := do
  let columns ← batch.columns.mapM fun a =>
    (OnChainColumn.tryFromArray parseTimeZone a).mapErr ArrowToOnChainTableError.Column
  let identifiers := IndexMap.dedup (batch.fields.map fun f => Ident.new f.name)
  if columns.length ≠ identifiers.length then
    Fallible.fail .DuplicateIdentifier
  else
    Fallible.expectOk (tryFromIter upper (identifiers.zip columns))
      "RecordBatch guarantees that table has at least one column, and that columns have matching lengths"

/-- A converted batch: every column converted, as many converted columns as distinct field
names (compared as `Ident::new` of the names), and the table built from the two. -/
theorem tryFromRecordBatch_ok {upper : CaseMapping} {parseTimeZone : String → Except Unit PoSQLTimeZone}
    {batch : Arrow.RecordBatch} {t : OnChainTable} (h : tryFromRecordBatch upper parseTimeZone batch = .ok t) :
    ∃ columns, batch.columns.mapM (fun a =>
        (OnChainColumn.tryFromArray parseTimeZone a).mapErr ArrowToOnChainTableError.Column) = .ok columns ∧
      columns.length = (IndexMap.dedup (batch.fields.map fun f => Ident.new f.name)).length ∧
      tryFromIter upper ((IndexMap.dedup (batch.fields.map fun f => Ident.new f.name)).zip columns) = .ok t := by
  unfold tryFromRecordBatch at h
  obtain ⟨columns, hcols, h⟩ := Fallible.bind_eq_ok.mp h
  dsimp only at h
  split at h
  · cases h
  · rename_i hlen
    exact ⟨columns, hcols, not_not.mp hlen, Fallible.expectOk_eq_ok.mp h⟩

/-- A batch without columns reaches the `expect`: `try_from_iter` finds no pairs. -/
theorem tryFromRecordBatch_of_columns_eq_nil {upper : CaseMapping}
    {parseTimeZone : String → Except Unit PoSQLTimeZone} {batch : Arrow.RecordBatch} (h : batch.columns = []) :
    tryFromRecordBatch upper parseTimeZone batch = .error (.panic
      "RecordBatch guarantees that table has at least one column, and that columns have matching lengths") := by
  -- a batch has one field per column
  have hfields : batch.fields = [] := by
    have hlen := congrArg List.length batch.types
    rw [h, List.length_map, List.length_map, List.length_nil] at hlen
    exact List.eq_nil_of_length_eq_zero hlen.symm
  simp [tryFromRecordBatch, h, hfields, IndexMap.dedup, tryFromIter, Fallible.expectOk]

end OnChainTable

/-- `OnChainTableBytes`: the postcard encoding of a table, within `DATA_MAX_LEN` bytes.
Postcard encodes a table's map without failing and decodes the encoding back to the same map,
so the model keeps the table the bytes encode. -/
structure OnChainTableBytes where
  table : OnChainTable
deriving DecidableEq

/-- `TryFrom<OnChainTable> for OnChainTableBytes`: the encoding must fit `DATA_MAX_LEN`. -/
def OnChainTableBytes.tryFromTable (env : NativeEnv) (t : OnChainTable) : Except Unit OnChainTableBytes :=
  if env.encodedLen t ≤ DATA_MAX_LEN then .ok ⟨t⟩ else .error ()

/-- `TryFrom<OnChainTableBytes> for OnChainTable`: postcard decodes the map, and the table's
`Deserialize` rebuilds it with `try_from_iter`. -/
def OnChainTable.tryFromBytes (upper : CaseMapping) (b : OnChainTableBytes) :
    Except OnChainTableError OnChainTable :=
  OnChainTable.tryFromIter upper b.table.columns

/-- The host function `record_batch_to_onchain`. -/
def recordBatchToOnchain (env : NativeEnv) (rowData : RowData) : Fallible NativeError OnChainTableBytes :=
  match env.readFirstBatch rowData.toList with
  | .OpenFailed => Fallible.fail .DeserializationError
  | .NoBatch => Fallible.fail .EmptyRecordBatchError
  | .BatchFailed => Fallible.fail .BatchReadError
  | .Batch batch => do
    let table ← (OnChainTable.tryFromRecordBatch env.upper env.parseTimeZone batch).mapErr NativeError.ofArrow
    Fallible.ofExcept (fun _ => NativeError.SerializationError) (OnChainTableBytes.tryFromTable env table)

end SxtNode
