import SxtNode.Model.ScalarConversion

/-!
# On-chain tables back to arrow

`From<OnChainColumn> for ArrayRef` writes each column as the arrow array of its type: decimals
with their precision and scale, set by `with_precision_and_scale(..).unwrap()`, and timestamps
with their zone written out as text. `From<OnChainTable> for RecordBatch` names each array by
its identifier's value and builds the batch with `RecordBatch::try_from_iter`, expecting that to
succeed. `record_batch_from_data` decodes a table's postcard bytes and converts it.

Arrow accepts a decimal type's precision and scale when the precision is not zero and both are
at most the type's maximum, and no positive scale exceeds the precision; the model states that
rule, and `unwrap` aborts on any other pair. A zone's text is `PoSQLTimeZone`'s `Display`, a
parameter here.
-/

set_option autoImplicit false

namespace SxtNode

namespace Arrow

/-- `validate_decimal_precision_and_scale` for a decimal type whose precision and scale are at
most `max` (`38` for `Decimal128`, `76` for `Decimal256`). -/
def ValidDecimal (max : ℕ) (precision : UInt8) (scale : Int8) : Prop :=
  precision.toNat ≠ 0 ∧ precision.toNat ≤ max ∧ scale.toInt ≤ max ∧
    ¬(0 < scale.toInt ∧ (precision.toNat : ℤ) < scale.toInt)

instance (max : ℕ) (precision : UInt8) (scale : Int8) : Decidable (ValidDecimal max precision scale) :=
  inferInstanceAs (Decidable (_ ∧ _))

/-- A decimal array's `with_precision_and_scale(precision, scale).unwrap()`: the array with its
type set, or an abort on a pair arrow refuses. -/
def withPrecisionAndScale (max : ℕ) (dataType : DataType) (data : ArrayData) (precision : UInt8)
    (scale : Int8) : Fallible Empty ArrayRef :=
  if ValidDecimal max precision scale then .ok ⟨dataType, data, 0⟩
  else Fallible.abort "called Result::unwrap() on an Err value"

/-- `Decimal128Array::with_precision_and_scale(..).unwrap()`. -/
def decimal128WithPrecisionAndScale (values : List (BitVec 128)) (precision : UInt8) (scale : Int8) :
    Fallible Empty ArrayRef :=
  withPrecisionAndScale 38 (.Decimal128 precision scale) (.Decimal128 values) precision scale

/-- `Decimal256Array::with_precision_and_scale(..).unwrap()`. -/
def decimal256WithPrecisionAndScale (values : List (BitVec 256)) (precision : UInt8) (scale : Int8) :
    Fallible Empty ArrayRef :=
  withPrecisionAndScale 76 (.Decimal256 precision scale) (.Decimal256 values) precision scale

/-- arrow's `RecordBatch::try_from_iter`: each field is named as given, of its array's type, and
nullable when its array has a null; the batch is as long as its first array, and an array of
another length, or no array at all, is an error. -/
def RecordBatch.tryFromIter (pairs : List (String × ArrayRef)) : Except Unit RecordBatch :=
  match pairs with
  | [] => .error ()
  | first :: rest =>
    if h : ∀ a ∈ (first :: rest).map Prod.snd, a.data.len = first.2.data.len then
      .ok { fields := (first :: rest).map fun e => ⟨e.1, e.2.dataType, decide (0 < e.2.nullCount)⟩
            columns := (first :: rest).map Prod.snd
            rowCount := first.2.data.len
            types := by simp
            column_len := h }
    else .error ()

end Arrow

namespace OnChainColumn

open Arrow in
/-- `From<OnChainColumn> for ArrayRef`, with `PoSQLTimeZone`'s `Display` as `displayTimeZone`. -/
def toArray (displayTimeZone : PoSQLTimeZone → String) : OnChainColumn → Fallible Empty ArrayRef
  | Boolean v => .ok ⟨.Boolean, .Boolean (v.map some), 0⟩
  | UnsignedTinyInt v => .ok ⟨.UInt8, .UInt8 v, 0⟩
  | TinyInt v => .ok ⟨.Int8, .Int8 v, 0⟩
  | SmallInt v => .ok ⟨.Int16, .Int16 v, 0⟩
  | Int v => .ok ⟨.Int32, .Int32 v, 0⟩
  | BigInt v => .ok ⟨.Int64, .Int64 v, 0⟩
  | Int128 v => decimal128WithPrecisionAndScale v 38 0
  | Decimal75 precision scale v => decimal256WithPrecisionAndScale (v.map u256ToArrowI256) precision.value scale
  | VarChar v => .ok ⟨.Utf8, .Utf8 (v.map some), 0⟩
  | VarBinary v => .ok ⟨.Binary, .Binary (v.map some), 0⟩
  | TimestampTZ unit zone v =>
    let timezone := zone.map displayTimeZone
    match unit with
    | .Second => .ok ⟨.Timestamp .Second timezone, .TimestampSecond v, 0⟩
    | .Millisecond => .ok ⟨.Timestamp .Millisecond timezone, .TimestampMillisecond v, 0⟩
    | .Microsecond => .ok ⟨.Timestamp .Microsecond timezone, .TimestampMicrosecond v, 0⟩
    | .Nanosecond => .ok ⟨.Timestamp .Nanosecond timezone, .TimestampNanosecond v, 0⟩

end OnChainColumn

namespace OnChainTable

/-- `From<OnChainTable> for RecordBatch`. -/
def toRecordBatch (displayTimeZone : PoSQLTimeZone → String) (t : OnChainTable) :
    Fallible Empty Arrow.RecordBatch := do
  let pairs ← t.columns.mapM fun e => (fun a => (e.1.value, a)) <$> e.2.toArray displayTimeZone
  Fallible.expectOk (Arrow.RecordBatch.tryFromIter pairs) "OnChainTable type guarantees all expectations of RecordBatches"

end OnChainTable

/-- `SQLError`, with the variant `record_batch_from_data` returns. -/
inductive SqlError where
  | BadRecordBatch
deriving DecidableEq, Repr

/-- `record_batch_from_data`: postcard decodes the table, whose `Deserialize` rebuilds it with
`try_from_iter`, and the table is converted. -/
def recordBatchFromData (upper : CaseMapping) (displayTimeZone : PoSQLTimeZone → String)
    (bytes : OnChainTableBytes) : Fallible SqlError Arrow.RecordBatch :=
  match OnChainTable.tryFromBytes upper bytes with
  | .error _ => Fallible.fail .BadRecordBatch
  | .ok table => (table.toRecordBatch displayTimeZone).mapErr Empty.elim

end SxtNode
