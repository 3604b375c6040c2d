import SxtNode.Analysis.IndexingVotes

/-!
# Record batches as on-chain tables

`TryFrom<RecordBatch> for OnChainTable` checks that the field names are distinct as written
(`Ident::new` of each name), while `try_from_iter` uppercases them before it collects the
pairs by insertion. So the conversion keeps every column exactly when no two names agree after
uppercasing, and otherwise merges the colliding columns into the last one, with no error.
`ValidatedCreateTable` has the same gap between its duplicate check and `into_empty_table`.

The conversion also reaches its `expect` on a batch without columns, and the decimal
conversion reaches its own on a precision of zero. Either abort ends `finalize_quorum` for
every quorum and state whose row data decodes to such a batch, and the first is met at the end
of a run of `pallet_indexing`.
-/

set_option autoImplicit false

namespace SxtNode

namespace OnChainTable

section Lossless

variable {upper : CaseMapping} {parseTimeZone : String → Except Unit PoSQLTimeZone}
  {batch : Arrow.RecordBatch} {t : OnChainTable}

theorem length_fields_eq (batch : Arrow.RecordBatch) : batch.fields.length = batch.columns.length := by
  have h := congrArg List.length batch.types
  rwa [List.length_map, List.length_map, eq_comm] at h

/-- Without names that collide once uppercased, the conversion keeps each column: the table's
entries are, in order, each field's uppercased name with the conversion of its column. -/
theorem tryFromRecordBatch_of_nodup (h : tryFromRecordBatch upper parseTimeZone batch = .ok t)
    (hnd : (batch.fields.map fun f => toUppercase upper f.name).Nodup) :
    ∃ columns, List.Forall₂ (fun a c =>
        (OnChainColumn.tryFromArray parseTimeZone a).mapErr ArrowToOnChainTableError.Column = .ok c)
        batch.columns columns ∧
      t.columns = (batch.fields.map fun f => normalizeIdent upper (Ident.new f.name)).zip columns := by
  obtain ⟨columns, hcols, hlen, hiter⟩ := tryFromRecordBatch_ok h
  have hconv := Fallible.forall₂_of_mapM_eq_ok hcols
  -- names distinct after uppercasing are distinct as written, so the duplicate check drops none
  have hidents : (batch.fields.map fun f => Ident.new f.name).Nodup := by
    refine List.Nodup.of_map (fun i => toUppercase upper i.value) ?_
    simpa [List.map_map, Function.comp_def, Ident.new] using hnd
  rw [IndexMap.dedup_eq_self hidents] at hlen hiter
  rw [List.length_map] at hlen
  -- and the uppercased identifiers are distinct too, so `try_from_iter` merges nothing
  have hkeys : (((batch.fields.map fun f => Ident.new f.name).zip columns).map
      fun e => normalizeIdent upper e.1) = batch.fields.map fun f => normalizeIdent upper (Ident.new f.name) := by
    rw [show (fun e : Ident × OnChainColumn => normalizeIdent upper e.1) = normalizeIdent upper ∘ Prod.fst from rfl,
      ← List.map_map, List.map_fst_zip (by simp [hlen]), List.map_map]
    rfl
  have hnorm : (batch.fields.map fun f => normalizeIdent upper (Ident.new f.name)).Nodup := by
    refine List.Nodup.of_map Ident.value ?_
    simpa [List.map_map, Function.comp_def, normalizeIdent, Ident.new] using hnd
  refine ⟨columns, hconv, ?_⟩
  rw [tryFromIter_ok_of_nodup hiter (hkeys ▸ hnorm), List.zip_map_left, List.zip_map_left, List.map_map]
  rfl

end Lossless

/-! ## Names that differ only in case -/

/-- A batch of one row with the fields `a` and `A`, holding 1 and 2. -/
def caseVariantBatch : Arrow.RecordBatch where
  fields := [⟨"a", .Int64, false⟩, ⟨"A", .Int64, false⟩]
  columns := [⟨.Int64, .Int64 [1], 0⟩, ⟨.Int64, .Int64 [2], 0⟩]
  rowCount := 1
  types := by decide
  column_len := by decide

/-- `CREATE TABLE NS.T (a BIGINT NOT NULL, A BIGINT NOT NULL)`. -/
def caseVariantCreateTable : CreateTableBuilder :=
  ⟨[Ident.new "NS", Ident.new "T"],
    [⟨Ident.new "a", .BigInt none, [.NotNull]⟩, ⟨Ident.new "A", .BigInt none, [.NotNull]⟩]⟩

/-- Both checks let the two columns through, and both tables end with one column `A`: the
batch's table holds only the values of `A`. -/
theorem caseVariant_columns_merged :
    (tryFromRecordBatch asciiCaseMapping (fun _ => .error ()) caseVariantBatch).map columns =
      .ok [(Ident.new "A", .BigInt [2])] ∧
    caseVariantBatch.columns.length = 2 ∧
    ∃ v, ValidatedCreateTable.validate caseVariantCreateTable = .ok v ∧ v.proofOfSqlSchema.length = 2 ∧
      (v.intoEmptyTable asciiCaseMapping).map columns = .ok [(Ident.new "A", .BigInt [])] :=
  ⟨by decide, rfl, ⟨caseVariantCreateTable, [(Ident.new "a", .BigInt), (Ident.new "A", .BigInt)]⟩,
    by decide, rfl, by decide⟩

/-! ## Aborts in the conversion -/

/-- A decimal array of precision zero passes the range check `p ≤ 75` and aborts on
`Precision::new`. -/
theorem tryFromArray_decimal256_zero (parseTimeZone : String → Except Unit PoSQLTimeZone)
    (scale : Int8) (data : Arrow.ArrayData) :
    OnChainColumn.tryFromArray parseTimeZone ⟨.Decimal256 0 scale, data, 0⟩ = .error (.panic "precision is less than 76") :=
  rfl

/-- So does the conversion of a batch once it reaches such an array, the arrays before it
converting: the columns are converted in order, before the names are looked at. -/
theorem tryFromRecordBatch_of_decimal256_zero {upper : CaseMapping}
    {parseTimeZone : String → Except Unit PoSQLTimeZone} {batch : Arrow.RecordBatch} {scale : Int8}
    {data : Arrow.ArrayData} {pre rest : List Arrow.ArrayRef}
    (h : batch.columns = pre ++ ⟨.Decimal256 0 scale, data, 0⟩ :: rest)
    (hpre : ∀ a ∈ pre, ∃ c, OnChainColumn.tryFromArray parseTimeZone a = .ok c) :
    tryFromRecordBatch upper parseTimeZone batch = .error (.panic "precision is less than 76") := by
  have hcols : batch.columns.mapM (fun a =>
      (OnChainColumn.tryFromArray parseTimeZone a).mapErr ArrowToOnChainTableError.Column) =
      .error (.panic "precision is less than 76") := by
    rw [h]
    refine Fallible.mapM_append_cons_eq_error (fun a ha => ?_) ?_
    · obtain ⟨c, hc⟩ := hpre a ha
      exact ⟨c, Fallible.mapErr_eq_ok.mpr hc⟩
    · rw [tryFromArray_decimal256_zero, Fallible.mapErr_panic]
  simp only [tryFromRecordBatch, hcols, Fallible.error_bind]

/-- `record_batch_to_onchain` aborts wherever the conversion of the batch arrow reads aborts. -/
theorem recordBatchToOnchain_of_tryFromRecordBatch_panic {env : NativeEnv} {rowData : RowData}
    {batch : Arrow.RecordBatch} {m : String} (hread : env.readFirstBatch rowData.toList = .Batch batch)
    (h : tryFromRecordBatch env.upper env.parseTimeZone batch = .error (.panic m)) :
    recordBatchToOnchain env rowData = .error (.panic m) := by
  simp only [recordBatchToOnchain, hread, h, Fallible.mapErr_panic, Fallible.error_bind]

end OnChainTable

namespace Indexing

/-- A batch with no columns and one row, which arrow's reader may return. -/
def zeroColumnBatch : Arrow.RecordBatch := ⟨[], [], 1, rfl, by simp⟩

/-- `sampleEnv`, with every row data decoding to `zeroColumnBatch`. -/
def zeroColumnEnv : Env MetaCommitment (List UInt8 × Option UInt64) :=
  { sampleEnv with native := { sampleEnv.native with readFirstBatch := fun _ => .Batch zeroColumnBatch } }

/-- Account 1 votes for `rowsOne` in `tableA`. -/
def zeroColumnVote : Runtime ℕ (List UInt8 × Option UInt64) MetaCommitment :=
  dispatch ((Call.submitData tableA sampleBatch rowsOne).run zeroColumnEnv (.Signed 1)) (sampleState doublePerms)

/-- The second vote reaches the quorum, and finalizing it aborts in the conversion of the
decoded batch. -/
theorem zeroColumnVote_finalize_panics :
    Reachable Init (Step zeroColumnEnv) zeroColumnVote ∧
    (Call.submitData tableA sampleBatch rowsOne).run zeroColumnEnv (.Signed 2) zeroColumnVote = .error (.panic
      "RecordBatch guarantees that table has at least one column, and that columns have matching lengths") :=
  ⟨(Reachable.of_init ⟨rfl, rfl, rfl⟩).tail (Step.call _ _ _), Fallible.eq_error_of_fault? (by decide)⟩

section Finalize

variable {Acc : Type} [LinearOrder Acc] {H C : Type}

/-- Finalizing a quorum aborts wherever `record_batch_to_onchain` aborts on its row data; the
decision written before the conversion goes with the rest of the call. -/
theorem finalizeQuorum_of_recordBatchToOnchain_panic {env : Env C H} {quorum : DataQuorum Acc H}
    {rowData : RowData} {bn : Option UInt64} {s : Runtime Acc H C} {m : String}
    (h : recordBatchToOnchain env.native rowData = .error (.panic m)) :
    finalizeQuorum env quorum rowData bn s = .error (.panic m) := by
  simp only [finalizeQuorum, h, Fallible.mapErr_panic, Fallible.error_bind]

end Finalize

/-- A batch of one row whose one column is a decimal array of precision zero. -/
def decimalZeroBatch : Arrow.RecordBatch where
  fields := [⟨"D", .Decimal256 0 0, false⟩]
  columns := [⟨.Decimal256 0 0, .Decimal256 [0], 0⟩]
  rowCount := 1
  types := rfl
  column_len := by decide

/-- `sampleEnv`, with every row data decoding to `decimalZeroBatch`. -/
def decimalZeroEnv : Env MetaCommitment (List UInt8 × Option UInt64) :=
  { sampleEnv with native := { sampleEnv.native with readFirstBatch := fun _ => .Batch decimalZeroBatch } }

/-- The decision for `rowsOne` in `tableA`, with no submitters recorded. -/
def rowsOneQuorum : DataQuorum ℕ (List UInt8 × Option UInt64) :=
  ⟨tableA, sampleBatch, (rowsOne.toList, none), 5, default, default, .Public⟩

end Indexing

end SxtNode
