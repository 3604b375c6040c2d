import SxtNode.Analysis.TableRegistry

/-!
# What validating a `CREATE TABLE` leaves to later code

`ValidatedCreateTable::validate` checks the shape of a definition, and the code after it relies
on more than it checks. The commitments pallet converts the definition's name to a
`TableIdentifier` with an `expect`, but validation only asks for two parts, not for parts that
fit in an identifier, so a long name aborts table creation. And the empty table keeps the quote
style of each column identifier, while an insert's identifiers come from arrow field names,
unquoted, so a quoted column makes every insert into the table fail.
-/

set_option autoImplicit false

namespace SxtNode

section NameLength

variable {C : Type} (native : NativeEnv) (env : PosqlEnv C)

/-- Every definition that `process_create_table` accepts has a two-part name, and if either
part is longer than an identifier once uppercased, creating its commitments aborts. -/
theorem processCreateTableAndInitiateCommitmentsWithScheme_of_long_name {createTable : CreateTableBuilder}
    {scheme : CommitmentSchemeFlags} {m : CommitmentStorageMap C} {r : CreateTableAndCommitmentMetadata × Commitments C}
    (h : processCreateTable env native.upper createTable scheme = .ok r) :
    ∃ ns n, createTable.name = [ns, n] ∧
      (IDENT_LENGTH < (utf8Bytes (toUppercase native.upper ns.value)).length ∨
        IDENT_LENGTH < (utf8Bytes (toUppercase native.upper n.value)).length →
        processCreateTableAndInitiateCommitmentsWithScheme native env createTable scheme m =
          .error (.panic "Create table identifier already validated by process_create_table")) := by
  obtain ⟨v, hv⟩ := validate_of_processCreateTable env h
  obtain ⟨ns, n, hname⟩ := ValidatedCreateTable.validate_name hv
  refine ⟨ns, n, hname, fun hlong => ?_⟩
  apply processCreateTableAndInitiateCommitmentsWithScheme_of_name_error native env h
  -- a part that does not fit makes the conversion fail
  rw [hname]
  cases hok : (TableIdentifier.tryFromObjectName native.upper [ns, n]).isOk with
  | false => rfl
  | true =>
    have hfit := (tryFromObjectName_isOk_iff native.upper ns n).mp hok
    omega

end NameLength

namespace Tables

/-! ## A name longer than an identifier -/

/-- A table name of 65 letters. -/
def longTableName : String := String.ofList (List.replicate 65 'T')

def longNameCreateTable : CreateTableBuilder :=
  ⟨[Ident.new "NS", Ident.new longTableName], [⟨Ident.new "A", .BigInt none, [.NotNull]⟩]⟩

set_option maxRecDepth 4000 in
def longNameStatement : CreateStatement :=
  createStatementOf ("CREATE TABLE NS." ++ longTableName ++ " (A BIGINT NOT NULL) WITH (TABLE_UUID = u1)")

/-- The table UUID `u1` fits in an identifier. -/
theorem length_utf8Bytes_u1 : (utf8Bytes "u1").length ≤ IDENT_LENGTH := by decide

set_option maxRecDepth 4000 in
def ddlLongName : DdlEnv :=
  DdlEnv.single longNameStatement longNameCreateTable (utf8Bytes "WITH (TABLE_UUID = u1)") ⟨utf8Bytes "u1", length_utf8Bytes_u1⟩
    (createStatementOf ("CREATE TABLE NS." ++ longTableName ++ " (A BIGINT NOT NULL, META_ROW_NUMBER BIGINT NOT NULL)"))

/-- The community table with the long name, registered under `NS.T`. -/
def tablesLongName : UpdateTableList :=
  ⟨[⟨identNST, longNameStatement, .Community, .Empty ⟨false, true⟩, .Ethereum⟩], by simp [MAX_TABLES_PER_SCHEMA]⟩

set_option maxRecDepth 8000 in
/-- Validation accepts the definition, and root's `create_tables` with it aborts on a new
chain. -/
theorem longNameRun_panics :
    (ValidatedCreateTable.validate longNameCreateTable).isOk ∧
    createTables ddlLongName Indexing.sampleEnv .Root tablesLongName (Runtime.genesis : Runtime ℕ _ _) =
      .error (.panic "Create table identifier already validated by process_create_table") := by
  refine ⟨by decide, ?_⟩
  -- `process_create_table` accepts the definition, so its commitments abort on the long name
  obtain ⟨r, hcreate⟩ := Fallible.exists_eq_ok_of_isOk (show (processCreateTable Indexing.sampleEnv.posql
    Indexing.sampleEnv.native.upper longNameCreateTable ⟨false, true⟩).isOk = true by decide)
  obtain ⟨ns, n, hname, hpanic⟩ := processCreateTableAndInitiateCommitmentsWithScheme_of_long_name
    Indexing.sampleEnv.native Indexing.sampleEnv.posql (m := ∅) hcreate
  obtain ⟨rfl, rfl⟩ : Ident.new "NS" = ns ∧ Ident.new longTableName = n := by
    simpa [longNameCreateTable] using hname
  have hlong : IDENT_LENGTH < (utf8Bytes (toUppercase Indexing.sampleEnv.native.upper longTableName)).length := by
    decide
  -- the table's UUID is already in its DDL, which parses; the commitment step then aborts
  have hinit : initiateCommitments Indexing.sampleEnv ⟨identNST, longNameStatement, .Community, .Empty ⟨false, true⟩,
      .Ethereum⟩ longNameCreateTable (insertSchema identNST longNameStatement .Community .Ethereum
        (insertTableUuid identNST ⟨utf8Bytes "u1", length_utf8Bytes_u1⟩ default
          (Runtime.genesis : Runtime ℕ (List UInt8 × Option UInt64) MetaCommitment))) =
      .error (.panic "Create table identifier already validated by process_create_table") := by
    simp only [initiateCommitments]
    rw [show (insertSchema identNST longNameStatement .Community .Ethereum
        (insertTableUuid identNST ⟨utf8Bytes "u1", length_utf8Bytes_u1⟩ default
          (Runtime.genesis : Runtime ℕ (List UInt8 × Option UInt64) MetaCommitment))).commitmentStorageMap = ∅
          from rfl, hpanic (.inr hlong)]
    rfl
  have huuids : getOrGenerateUuidsForTable ddlLongName longNameStatement identNST
      (Runtime.genesis : Runtime ℕ (List UInt8 × Option UInt64) MetaCommitment) =
        .ok (⟨utf8Bytes "u1", length_utf8Bytes_u1⟩, default) := by
    decide
  have hstmt : ddlLongName.updateUuid ⟨utf8Bytes "u1", length_utf8Bytes_u1⟩ default longNameStatement =
      .ok longNameStatement := by
    decide
  have hparse : ddlLongName.parseRemoveWith longNameStatement =
      .ok (longNameCreateTable, some (utf8Bytes "WITH (TABLE_UUID = u1)")) := by
    decide
  rw [createTables]
  exact createTablesInner_of_createTable_error ddlLongName Indexing.sampleEnv rfl rfl
    (createTable_of_initiateCommitments_error ddlLongName Indexing.sampleEnv huuids hstmt hparse hinit)

end Tables

/-! ## A quoted column identifier -/

namespace Commitments

/-- `CREATE TABLE NS.T ("A" BIGINT NOT NULL)`. -/
def quotedCreateTable : CreateTableBuilder :=
  ⟨[Ident.new "NS", Ident.new "T"], [⟨⟨"A", some '"'⟩, .BigInt none, [.NotNull]⟩]⟩

/-- The dynamic Dory commitment of the empty table, with the column's quote. -/
def quotedCommitments : Commitments MetaCommitment :=
  ⟨none, some ⟨[(⟨"A", some '"'⟩, .BigInt)], 0, 0⟩⟩

/-- An insert of one row into the column `A`. -/
def insertBatchA : Arrow.RecordBatch where
  fields := [⟨"A", .Int64, false⟩]
  columns := [⟨.Int64, .Int64 [5], 0⟩]
  rowCount := 1
  types := by decide
  column_len := by decide

def insertTableA : OnChainTable := ⟨[(Ident.new "A", .BigInt [5])], by decide, by simp, by simp⟩

/-- The table is created with a commitment to the quoted column; the insert converts to a table
whose only column is `A`, of the declared type; and appending it is rejected. -/
theorem quotedColumn_insert_rejected :
    processCreateTable Indexing.sampleEnv.posql asciiCaseMapping quotedCreateTable ⟨false, true⟩ =
      .ok (⟨createTableWithRowNumberColumn quotedCreateTable⟩, quotedCommitments) ∧
    OnChainTable.tryFromRecordBatch asciiCaseMapping (fun _ => .error ()) insertBatchA = .ok insertTableA ∧
    processInsert Indexing.sampleEnv.posql asciiCaseMapping insertTableA quotedCommitments =
      .error (.error .ColumnCommitmentsMismatch) :=
  ⟨rfl, by decide, Fallible.eq_error_of_fault? (by decide)⟩

end Commitments

end SxtNode
