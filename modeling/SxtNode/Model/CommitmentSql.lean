import SxtNode.Model.Arrow
import SxtNode.Model.CommitmentMap
import SxtNode.Lib.Int64Range

/-!
# Table definitions and inserts with commitment metadata (`commitment-sql`)

`ValidatedCreateTable.validate` checks a parsed `CREATE TABLE` for proof-of-sql, and
`into_empty_table` turns its schema into an empty on-chain table; `process_create_table`
commits to that empty table under the selected schemes, and `process_insert` appends an insert
to a table's commitments after putting its columns in the commitments' order.

proof-of-sql's table commitments are third-party code: `PosqlEnv C` gives the operations the
crate calls on a commitment of type `C`, with the public setups of both schemes fixed inside
them. A column enters a commitment as a `CommittableColumn`, which the model keeps as the
proof-of-sql type it commits as and the column it was made from.
-/

set_option autoImplicit false

namespace SxtNode

/-- `CommittableColumn`: a column in the form proof-of-sql commits to. -/
structure CommittableColumn where
  columnType : ColumnType
  column : OnChainColumn
deriving DecidableEq

/-- `AppendTableCommitmentError`, with the mismatch case of `AppendColumnCommitmentsError`
lifted out. -/
inductive AppendTableCommitmentError where
  | Mismatch
  | DuplicateIdents
  | MixedLengthColumns
deriving DecidableEq, Repr

/-- proof-of-sql's `TableCommitment<C>` API as the crate uses it. -/
structure PosqlEnv (C : Type) where
  /-- `u256_to_scalar` succeeds in the scalar field of the scheme. -/
  inScalarBounds : CommitmentScheme → BitVec 256 → Bool
  /-- `TableCommitment::try_from_columns_with_offset` with the scheme's public setup. -/
  tryFromColumnsWithOffset : CommitmentScheme → List (Ident × CommittableColumn) → ℕ → Except Unit C
  /-- `TableCommitment::try_append_rows` with the commitment's own scheme's setup. -/
  tryAppendRows : C → List (Ident × CommittableColumn) → Except AppendTableCommitmentError C
  /-- `TableCommitment::try_add`. -/
  tryAdd : C → C → Except Unit C
  /-- The identifiers and types of `column_commitments().column_metadata()`. -/
  columnMetadata : C → List (Ident × ColumnType)
  /-- `range().end`. -/
  rangeEnd : C → ℕ
  /-- The length of the bincode encoding. -/
  encodedLen : C → ℕ
  /-- Bincode decoding of a scheme's commitment. -/
  decode : CommitmentScheme → List UInt8 → Except Unit C

/-- `OutOfScalarBounds`. -/
structure OutOfScalarBounds where
deriving DecidableEq

namespace OnChainColumn

/-- `try_to_committable_column::<S>`: only decimal entries can fall outside the scalar field;
a timestamp column without a zone commits as UTC. -/
def tryToCommittableColumn (inBounds : BitVec 256 → Bool) (c : OnChainColumn) :
    Except OutOfScalarBounds CommittableColumn :=
  match c with
  | Boolean _ => .ok ⟨.Boolean, c⟩
  | UnsignedTinyInt _ => .ok ⟨.Uint8, c⟩
  | TinyInt _ => .ok ⟨.TinyInt, c⟩
  | SmallInt _ => .ok ⟨.SmallInt, c⟩
  | Int _ => .ok ⟨.Int, c⟩
  | BigInt _ => .ok ⟨.BigInt, c⟩
  | Int128 _ => .ok ⟨.Int128, c⟩
  | VarChar _ => .ok ⟨.VarChar, c⟩
  | Decimal75 p s v => if v.all inBounds then .ok ⟨.Decimal75 p s, c⟩ else .error ⟨⟩
  | TimestampTZ u z _ => .ok ⟨.TimestampTZ u (z.getD PoSQLTimeZone.utc), c⟩
  | VarBinary _ => .ok ⟨.VarBinary, c⟩

/-- A committable column keeps the column it was made from. -/
theorem column_tryToCommittableColumn {inBounds : BitVec 256 → Bool} {c : OnChainColumn}
    {cc : CommittableColumn} (h : c.tryToCommittableColumn inBounds = .ok cc) : cc.column = c := by
  cases c with
  | Decimal75 p s v =>
    -- only a decimal column can fail, on an entry outside the scalar field
    simp only [tryToCommittableColumn] at h
    split at h
    · cases h
      rfl
    · cases h
  | _ =>
    cases h
    rfl

end OnChainColumn

/-- `OnChainTable::iter_committable`, collected. -/
def OnChainTable.iterCommittable (inBounds : BitVec 256 → Bool) (t : OnChainTable) :
    Except OutOfScalarBounds (List (Ident × CommittableColumn)) :=
  t.columns.mapM fun e => (e.2.tryToCommittableColumn inBounds).map (e.1, ·)

/-- The columns to commit to are the table's columns: at least one, each as long as the table. -/
theorem OnChainTable.iterCommittable_ok {inBounds : BitVec 256 → Bool} {t : OnChainTable}
    {cols : List (Ident × CommittableColumn)} (h : t.iterCommittable inBounds = .ok cols) :
    cols ≠ [] ∧ ∀ e ∈ cols, e.2.column.len = t.numRows := by
  refine ⟨fun hnil => ?_, fun e he => ?_⟩
  · have hlen := (Fallible.forall₂_of_mapM_eq_ok h).length_eq
    rw [hnil, List.length_nil, List.length_eq_zero_iff] at hlen
    exact t.ne_nil hlen
  · obtain ⟨a, ha, hf⟩ := Fallible.exists_of_mem_mapM_eq_ok h he
    cases hc : a.2.tryToCommittableColumn inBounds with
    | error e' =>
      rw [hc] at hf
      cases hf
    | ok cc =>
      rw [hc] at hf
      cases hf
      show cc.column.len = t.numRows
      rw [OnChainColumn.column_tryToCommittableColumn hc]
      exact t.same_length a ha

/-! ## Validation of a table definition -/

/-- `InvalidColumnOptions`. -/
inductive InvalidColumnOptions where
  | Required (option : ColumnOption)
  | Unsupported (option : ColumnOption)
deriving DecidableEq, Repr

/-- `REQUIRED_OPTIONS`. -/
def REQUIRED_OPTIONS : List ColumnOption := [.NotNull]

/-- `column_option_is_supported`. -/
def columnOptionIsSupported : ColumnOption → Bool
  | .NotNull | .Comment _ => true
  | _ => false

/-- `validate_column_options`: every required option is present, then every option is
supported. -/
def validateColumnOptions (options : List ColumnOption) : Except InvalidColumnOptions Unit :=
  match REQUIRED_OPTIONS.find? (fun r => !options.contains r) with
  | some missing => .error (.Required missing)
  | none => match options.find? (fun o => !columnOptionIsSupported o) with
    | some unsupported => .error (.Unsupported unsupported)
    | none => .ok ()

/-- `METADATA_PREFIX`. -/
def METADATA_PREFIX : String := "META"

/-- `validate_idents_avoid_prefix`: no identifier, ASCII-uppercased, starts with the prefix. -/
def validateIdentsAvoidPrefix (idents : List Ident) : Bool :=
  idents.all fun i => !METADATA_PREFIX.toList.isPrefixOf (toAsciiUppercase i.value).toList

/-- `validate_table_avoids_prefix`: the table's name parts, then its column names. -/
def validateTableAvoidsPrefix (table : CreateTableBuilder) : Bool :=
  validateIdentsAvoidPrefix table.name && validateIdentsAvoidPrefix (table.columns.map (·.name))

/-- `UnsupportedColumnType`. -/
inductive UnsupportedColumnType where
  | UnconstrainedDecimal
  | DecimalPrecision (precision : ℕ)
  | DecimalScale (scale : ℕ)
  | DataTypeParameter (dataType : DataType)
  | DataType (dataType : DataType)
deriving DecidableEq, Repr

/-- `sqlparser_number_info_to_proof_of_sql_precision_and_scale`: the precision must convert to
`u8` and then be a `Precision`, the scale must convert to `i8`. -/
def sqlparserNumberInfoToProofOfSqlPrecisionAndScale (info : ExactNumberInfo) :
    Except UnsupportedColumnType (Precision × Int8) := do
  let (precision, scale) ← match info with
    | .None => .error .UnconstrainedDecimal
    | .Precision p => .ok (p, 0)
    | .PrecisionAndScale p s => .ok (p, s)
  let p ← if precision < 256 then
      match Precision.new precision.toUInt8 with
      | some p => .ok p
      | none => .error (.DecimalPrecision precision)
    else .error (.DecimalPrecision precision)
  let s ← if scale < 128 then .ok (Int8.ofNat scale) else .error (.DecimalScale scale)
  .ok (p, s)

/-- `sqlparser_data_type_to_proof_of_sql_column_type`. -/
def sqlparserDataTypeToProofOfSqlColumnType (dataType : DataType) :
    Except UnsupportedColumnType ColumnType :=
  match dataType with
  | .Boolean => .ok .Boolean
  | .TinyInt none => .ok .TinyInt
  | .SmallInt none => .ok .SmallInt
  | .Int none | .Integer none => .ok .Int
  | .BigInt none => .ok .BigInt
  | .Varchar none => .ok .VarChar
  | .Decimal info => (sqlparserNumberInfoToProofOfSqlPrecisionAndScale info).map
      fun (p, s) => .Decimal75 p s
  | .Timestamp none .None => .ok (.TimestampTZ .Millisecond PoSQLTimeZone.utc)
  | .Binary none => .ok .VarBinary
  | .TinyInt _ | .SmallInt _ | .Int _ | .Integer _ | .BigInt _ | .Varchar _ | .Binary _
  | .Timestamp _ _ => .error (.DataTypeParameter dataType)
  | .Other _ => .error (.DataType dataType)

/-- `InvalidCreateTable`. -/
inductive InvalidCreateTable where
  | NoColumns
  | UnsupportedColumnType (source : UnsupportedColumnType)
  | NumTableIdentifiers (numIdentifiers : ℕ)
  | DuplicateIdentifiers
  | ReservedMetadataPrefix
  | ColumnOptions (source : InvalidColumnOptions)
deriving DecidableEq, Repr

/-- `ValidatedCreateTable`: the definition and its schema, collected into an insertion-ordered
map keyed by the column identifiers as written. -/
structure ValidatedCreateTable where
  table : CreateTableBuilder
  proofOfSqlSchema : List (Ident × ColumnType)
deriving DecidableEq

namespace ValidatedCreateTable

/-- `ValidatedCreateTable::validate`. The duplicate check compares the schema's size with the
column count, so it sees identifiers that are equal as written (value and quote style). -/
def validate (table : CreateTableBuilder) : Except InvalidCreateTable ValidatedCreateTable := do
  if !validateTableAvoidsPrefix table then throw .ReservedMetadataPrefix
  table.columns.forM fun c => (validateColumnOptions c.options).mapError .ColumnOptions
  match table.name with
  | [_, _] => pure ()
  | name => throw (.NumTableIdentifiers name.length)
  let columns ← table.columns.mapM fun c =>
    ((sqlparserDataTypeToProofOfSqlColumnType c.dataType).map (c.name, ·)).mapError
      .UnsupportedColumnType
  let schema := IndexMap.fromList columns
  if schema.isEmpty then throw .NoColumns
  if schema.length < table.columns.length then throw .DuplicateIdentifiers
  pure ⟨table, schema⟩

/-- A validated definition has a name of two parts; their lengths are not checked. -/
theorem validate_name {table : CreateTableBuilder} {v : ValidatedCreateTable} (h : validate table = .ok v) :
    ∃ ns n, table.name = [ns, n] := by
  unfold validate at h
  dsimp only at h
  split at h
  · cases h
  · cases hopts : table.columns.forM fun c =>
        (validateColumnOptions c.options).mapError InvalidCreateTable.ColumnOptions with
    | error e =>
      rw [hopts] at h
      cases h
    | ok u =>
      rw [hopts] at h
      dsimp only [bind, Except.bind] at h
      -- the match on the name is the next step
      split at h
      · rename_i ns n hname
        exact ⟨ns, n, hname⟩
      · cases h

/-- `into_empty_table`: an empty column of each schema type, collected by
`OnChainTable::try_from_iter`, which uppercases the identifiers. -/
def intoEmptyTable (upper : CaseMapping) (v : ValidatedCreateTable) : Fallible Empty OnChainTable := do
  let columns ← v.proofOfSqlSchema.mapM fun e => (OnChainColumn.emptyWithType e.2).map (e.1, ·)
  Fallible.expectOk (OnChainTable.tryFromIter upper columns)
    "ValidatedCreateTable is guaranteed to have at least one column and that all columns have the same length"

/-- The empty table of a definition has no rows. -/
theorem numRows_intoEmptyTable {upper : CaseMapping} {v : ValidatedCreateTable} {t : OnChainTable}
    (h : v.intoEmptyTable upper = .ok t) : t.numRows = 0 := by
  unfold intoEmptyTable at h
  obtain ⟨cols, hcols, ht⟩ := Fallible.bind_eq_ok.mp h
  have ht' := Fallible.expectOk_eq_ok.mp ht
  cases cols with
  | nil => cases ht'
  | cons e rest =>
    -- the first pair holds an empty column, as long as the table
    obtain ⟨a, -, ha⟩ := Fallible.exists_of_mem_mapM_eq_ok hcols List.mem_cons_self
    rw [← OnChainTable.len_of_tryFromIter_ok ht' e List.mem_cons_self]
    cases hc : OnChainColumn.emptyWithType a.2 with
    | error f =>
      rw [hc] at ha
      cases ha
    | ok c =>
      rw [hc] at ha
      cases ha
      exact OnChainColumn.len_emptyWithType hc

end ValidatedCreateTable

/-! ## The row number column -/

/-- `ROW_NUMBER_COLUMN_NAME`. -/
def ROW_NUMBER_COLUMN_NAME : String := "META_ROW_NUMBER"

/-- `row_number_column_def`. -/
def rowNumberColumnDef : ColumnDef :=
  ⟨Ident.new ROW_NUMBER_COLUMN_NAME, .BigInt none, [.NotNull]⟩

/-- `create_table_with_row_number_column`. -/
def createTableWithRowNumberColumn (table : CreateTableBuilder) : CreateTableBuilder :=
  { table with columns := table.columns ++ [rowNumberColumnDef] }

/-- `on_chain_table_with_row_number_column`: appends the big-integer column of the range
`offset as i64 .. offset as i64 + num_rows as i64`, the casts and the sum wrapping as in a
release build; a range of another length than the rows makes the table fail and the call
abort. -/
def onChainTableWithRowNumberColumn (upper : CaseMapping) (t : OnChainTable) (offset : ℕ) :
    Fallible Empty OnChainTable :=
  let rowNumbers := Int64.rangeList (Int64.ofNat offset) (Int64.ofNat offset + Int64.ofNat t.numRows)
  Fallible.expectOk
    (OnChainTable.tryFromIter upper (t.columns ++ [(Ident.new ROW_NUMBER_COLUMN_NAME, .BigInt rowNumbers)]))
    "OnChainTable type and row_number_column construction guarantee matching column lengths"

/-- A table given row numbers holds the range under the uppercased `META_ROW_NUMBER`, and the
range has as many numbers as the table has rows. -/
theorem onChainTableWithRowNumberColumn_ok {upper : CaseMapping} {t t' : OnChainTable} {offset : ℕ}
    (h : onChainTableWithRowNumberColumn upper t offset = .ok t') :
    t'.get? (OnChainTable.normalizeIdent upper (Ident.new ROW_NUMBER_COLUMN_NAME)) =
        some (.BigInt (Int64.rangeList (Int64.ofNat offset) (Int64.ofNat offset + Int64.ofNat t.numRows))) ∧
      (Int64.rangeList (Int64.ofNat offset) (Int64.ofNat offset + Int64.ofNat t.numRows)).length = t.numRows := by
  have ht := Fallible.expectOk_eq_ok.mp h
  refine ⟨OnChainTable.get?_tryFromIter_append_singleton ht, ?_⟩
  -- the row number column and the table's first column both have the new table's length
  have hrow := OnChainTable.len_of_tryFromIter_ok ht _ (List.mem_append_right _ (List.mem_singleton_self _))
  have hfirst := OnChainTable.len_of_tryFromIter_ok ht _ (List.mem_append_left _ (List.head_mem t.ne_nil))
  exact hrow.trans hfirst.symm

/-! ## Creating a table -/

/-- `CreateTableAndCommitmentMetadata`; its metadata tables and inserts are always empty. -/
structure CreateTableAndCommitmentMetadata where
  tableWithMetaColumns : CreateTableBuilder
deriving DecidableEq

/-- `TableCommitmentArithmeticError`. -/
structure TableCommitmentArithmeticError where
deriving DecidableEq

/-- `ProcessCreateTableFromSnapshotError`. -/
inductive ProcessCreateTableFromSnapshotError where
  | InvalidCreateTable (source : InvalidCreateTable)
  | InappropriateSnapshotCommitments
deriving DecidableEq

/-- `ProcessInsertError`, with `AppendOnChainTableError` inlined. -/
inductive ProcessInsertError where
  | ColumnCommitmentsMismatch
  | OutOfScalarBounds
  | TableCommitmentRangeMismatch
  | TableCommitmentColumnOrderMismatch
  | NoCommitments
deriving DecidableEq, Repr

/-- `InsertAndCommitmentMetadata`; its metadata inserts are always empty. -/
structure InsertAndCommitmentMetadata where
  insertWithMetaColumns : OnChainTable
deriving DecidableEq

/-- Per-scheme commitments, each present or not. -/
abbrev Commitments (C : Type) := PerCommitmentScheme (fun _ => Option C)

/-- Runs `f` on the commitment of each present scheme, hyper-kzg first, stopping at the first
failure. -/
def Commitments.traverse {C D ε : Type} (c : Commitments C) (f : CommitmentScheme → C → Fallible ε D) :
    Fallible ε (Commitments D) := do
  let h ← Fallible.traverseOption c.hyperKzg (f .HyperKzg)
  let d ← Fallible.traverseOption c.dynamicDory (f .DynamicDory)
  pure ⟨h, d⟩

/-- Traversing keeps the schemes present. -/
theorem Commitments.toFlags_traverse {C D ε : Type} {c : Commitments C} {f : CommitmentScheme → C → Fallible ε D}
    {c' : Commitments D} (h : c.traverse f = .ok c') : c'.toFlags = c.toFlags := by
  unfold Commitments.traverse at h
  simp only [Fallible.bind_eq_ok] at h
  obtain ⟨h', hh, d', hd, hc⟩ := h
  cases hc
  simp [PerCommitmentScheme.toFlags, Fallible.isSome_traverseOption hh, Fallible.isSome_traverseOption hd]

/-- A commitment of a traversal's result is the image of the same scheme's commitment. -/
theorem Commitments.traverse_get {C D ε : Type} {c : Commitments C} {f : CommitmentScheme → C → Fallible ε D}
    {c' : Commitments D} (h : c.traverse f = .ok c') {s : CommitmentScheme} {d : D} (hs : c'.get s = some d) :
    ∃ x, c.get s = some x ∧ f s x = .ok d := by
  unfold Commitments.traverse at h
  simp only [Fallible.bind_eq_ok] at h
  obtain ⟨h', hh, d', hd, hc⟩ := h
  cases hc
  cases s with
  | HyperKzg =>
    rw [show h' = some d from hs] at hh
    exact Fallible.traverseOption_eq_ok_some hh
  | DynamicDory =>
    rw [show d' = some d from hs] at hd
    exact Fallible.traverseOption_eq_ok_some hd

/-- The present commitments, hyper-kzg first. -/
theorem Commitments.present_eq {C : Type} (c : Commitments C) :
    c.intoFlatIter.map AnyCommitmentScheme.unwrap = c.hyperKzg.toList ++ c.dynamicDory.toList := by
  obtain ⟨h, d⟩ := c
  cases h <;> cases d <;> rfl

/-- A present commitment is some scheme's commitment. -/
theorem Commitments.exists_get_of_mem {C : Type} {c : Commitments C} {x : C}
    (h : x ∈ c.intoFlatIter.map AnyCommitmentScheme.unwrap) : ∃ s, c.get s = some x := by
  rw [Commitments.present_eq, List.mem_append, Option.mem_toList, Option.mem_toList] at h
  rcases h with h | h
  · exact ⟨.HyperKzg, h⟩
  · exact ⟨.DynamicDory, h⟩

section Env

variable {C : Type} (env : PosqlEnv C)

/-- `OnChainTableToTableCommitmentFn`: commits to a table at a row offset. -/
def onChainTableToTableCommitment (t : OnChainTable) (offset : ℕ) (scheme : CommitmentScheme) :
    Fallible OutOfScalarBounds C := do
  let committable ← Fallible.ofExcept id (t.iterCommittable (env.inScalarBounds scheme))
  Fallible.expectOk (env.tryFromColumnsWithOffset scheme committable offset)
    "OnChainTables cannot have columns of mixed length or duplicate identifiers"

/-- `process_create_table`: validates the definition, commits to its empty table under each
selected scheme, and adds the row number column to the definition. -/
def processCreateTable (upper : CaseMapping) (table : CreateTableBuilder)
    (commitmentSchemes : CommitmentSchemeFlags) :
    Fallible InvalidCreateTable (CreateTableAndCommitmentMetadata × Commitments C) := do
  let validated ← Fallible.ofExcept id (ValidatedCreateTable.validate table)
  let emptyTable ← (validated.intoEmptyTable upper).mapErr Empty.elim
  let selected : Commitments Unit := (PerCommitmentScheme.mk () ()).select commitmentSchemes
  let emptyCommitments ← selected.traverse fun scheme _ =>
    match onChainTableToTableCommitment env emptyTable 0 scheme with
    | .ok c => .ok c
    | .error (.error _) => Fallible.abort "table is empty, therefore has no out-of-bounds values"
    | .error (.panic m) => Fallible.abort m
  pure (⟨createTableWithRowNumberColumn table⟩, emptyCommitments)

/-- `process_create_table_from_snapshot`: creates the table under the snapshot's schemes and
adds each snapshot commitment to the empty one. -/
def processCreateTableFromSnapshot (upper : CaseMapping) (table : CreateTableBuilder)
    (snapshotCommitments : Commitments C) :
    Fallible ProcessCreateTableFromSnapshotError (CreateTableAndCommitmentMetadata × Commitments C) := do
  let (metadata, emptyCommitments) ←
    (processCreateTable env upper table snapshotCommitments.toFlags).mapErr .InvalidCreateTable
  let validated ← emptyCommitments.traverse fun scheme empty =>
    match snapshotCommitments.get scheme with
    | some snapshot => Fallible.ofExcept (fun _ => .InappropriateSnapshotCommitments) (env.tryAdd empty snapshot)
    | none => pure empty
  pure (metadata, validated)

/-- The commitments of a created table are each scheme's commitment to one empty table at the
row offset zero. -/
theorem processCreateTable_commitments {upper : CaseMapping} {table : CreateTableBuilder}
    {schemes : CommitmentSchemeFlags} {md : CreateTableAndCommitmentMetadata} {cs : Commitments C}
    (h : processCreateTable env upper table schemes = .ok (md, cs)) :
    ∃ emptyTable : OnChainTable, emptyTable.numRows = 0 ∧
      ∀ s c, cs.get s = some c → onChainTableToTableCommitment env emptyTable 0 s = .ok c := by
  unfold processCreateTable at h
  simp only [Fallible.bind_eq_ok] at h
  obtain ⟨validated, -, emptyTable, hempty, cs', hcs, h⟩ := h
  cases h
  refine ⟨emptyTable, ValidatedCreateTable.numRows_intoEmptyTable (Fallible.mapErr_eq_ok.mp hempty),
    fun s c hs => ?_⟩
  obtain ⟨u, -, hf⟩ := Commitments.traverse_get hcs hs
  -- every failure to commit to the empty table aborts
  split at hf
  · rename_i c' hc
    cases hf
    exact hc
  · cases hf
  · cases hf

/-- A created table's definition gains the row number column, and its commitments are those
of the selected schemes. -/
theorem processCreateTable_ok {upper : CaseMapping} {table : CreateTableBuilder} {schemes : CommitmentSchemeFlags}
    {md : CreateTableAndCommitmentMetadata} {cs : Commitments C}
    (h : processCreateTable env upper table schemes = .ok (md, cs)) :
    md = ⟨createTableWithRowNumberColumn table⟩ ∧ cs.toFlags = schemes := by
  unfold processCreateTable at h
  simp only [Fallible.bind_eq_ok] at h
  obtain ⟨validated, -, emptyTable, -, cs', hcs, h⟩ := h
  cases h
  exact ⟨rfl, by rw [Commitments.toFlags_traverse hcs, PerCommitmentScheme.toFlags_select]⟩

/-- `process_create_table` accepts only definitions that `validate` accepts. -/
theorem validate_of_processCreateTable {upper : CaseMapping} {table : CreateTableBuilder}
    {schemes : CommitmentSchemeFlags} {r : CreateTableAndCommitmentMetadata × Commitments C}
    (h : processCreateTable env upper table schemes = .ok r) : ∃ v, ValidatedCreateTable.validate table = .ok v := by
  unfold processCreateTable at h
  obtain ⟨v, hv, -⟩ := Fallible.bind_eq_ok.mp h
  exact ⟨v, Fallible.ofExcept_eq_ok.mp hv⟩

/-- A table created from a snapshot has commitments of the snapshot's schemes. -/
theorem processCreateTableFromSnapshot_ok {upper : CaseMapping} {table : CreateTableBuilder}
    {snapshot : Commitments C} {md : CreateTableAndCommitmentMetadata} {cs : Commitments C}
    (h : processCreateTableFromSnapshot env upper table snapshot = .ok (md, cs)) :
    md = ⟨createTableWithRowNumberColumn table⟩ ∧ cs.toFlags = snapshot.toFlags := by
  unfold processCreateTableFromSnapshot at h
  simp only [Fallible.bind_eq_ok] at h
  obtain ⟨⟨md', empty⟩, hp, cs', hcs, h⟩ := h
  cases h
  obtain ⟨rfl, hflags⟩ := processCreateTable_ok env (Fallible.mapErr_eq_ok.mp hp)
  exact ⟨rfl, (Commitments.toFlags_traverse hcs).trans hflags⟩

/-! ## Inserting -/

/-- `Itertools::all_equal_value`: the common value of a non-empty list of equal values;
otherwise whether two differ. -/
def allEqualValue {α : Type} [DecidableEq α] : List α → Except Bool α
  | [] => .error false
  | a :: rest => if rest.all (· = a) then .ok a else .error true

/-- `AppendOnChainTableToTableCommitmentFn`: appends an insert to one commitment; the
duplicate-identifier and mixed-length failures of proof-of-sql abort. -/
def appendOnChainTableToTableCommitment (t : OnChainTable) (scheme : CommitmentScheme) (c : C) :
    Fallible ProcessInsertError C := do
  let committable ← Fallible.ofExcept (fun _ => .OutOfScalarBounds)
    (t.iterCommittable (env.inScalarBounds scheme))
  match env.tryAppendRows c committable with
  | .ok c' => pure c'
  | .error .Mismatch => Fallible.fail .ColumnCommitmentsMismatch
  | .error .DuplicateIdents => Fallible.abort "OnChainTables cannot have duplicate identifiers"
  | .error .MixedLengthColumns => Fallible.abort "OnChainTables cannot have columns of mixed length"

/-- Every value of a list of equal values is the common one, which is in the list. -/
theorem allEqualValue_ok {α : Type} [DecidableEq α] {l : List α} {a : α} (h : allEqualValue l = .ok a) :
    a ∈ l ∧ ∀ x ∈ l, x = a := by
  cases l with
  | nil => cases h
  | cons b rest =>
    simp only [allEqualValue] at h
    by_cases hall : rest.all (· = b)
    · rw [if_pos hall] at h
      cases h
      refine ⟨List.mem_cons_self, fun x hx => ?_⟩
      rcases List.mem_cons.mp hx with hx | hx
      · exact hx
      · simpa using List.all_eq_true.mp hall x hx
    · rw [if_neg hall] at h
      cases h

/-- Committing to a table commits to its columns at the offset. -/
theorem onChainTableToTableCommitment_ok {t : OnChainTable} {offset : ℕ} {s : CommitmentScheme} {c : C}
    (h : onChainTableToTableCommitment env t offset s = .ok c) :
    ∃ cols, t.iterCommittable (env.inScalarBounds s) = .ok cols ∧
      env.tryFromColumnsWithOffset s cols offset = .ok c := by
  unfold onChainTableToTableCommitment at h
  obtain ⟨cols, hcols, h⟩ := Fallible.bind_eq_ok.mp h
  exact ⟨cols, Fallible.ofExcept_eq_ok.mp hcols, Fallible.expectOk_eq_ok.mp h⟩

/-- Appending a table to a commitment appends its columns. -/
theorem appendOnChainTableToTableCommitment_ok {t : OnChainTable} {s : CommitmentScheme} {c c' : C}
    (h : appendOnChainTableToTableCommitment env t s c = .ok c') :
    ∃ cols, t.iterCommittable (env.inScalarBounds s) = .ok cols ∧ env.tryAppendRows c cols = .ok c' := by
  unfold appendOnChainTableToTableCommitment at h
  obtain ⟨cols, hcols, h⟩ := Fallible.bind_eq_ok.mp h
  refine ⟨cols, Fallible.ofExcept_eq_ok.mp hcols, ?_⟩
  split at h
  · rename_i c'' happ
    cases h
    exact happ
  · cases h
  · cases h
  · cases h

/-- The column order a commitment records. -/
def columnOrder (c : C) : List Ident := (env.columnMetadata c).map Prod.fst

/-- `process_insert`: the present commitments must agree on their row count and column order;
the insert is put in that order, appended to every commitment, and given row numbers from the
row count. -/
def processInsert (upper : CaseMapping) (insertData : OnChainTable) (previousCommitments : Commitments C) :
    Fallible ProcessInsertError (InsertAndCommitmentMetadata × Commitments C) := do
  let present := previousCommitments.intoFlatIter.map AnyCommitmentScheme.unwrap
  let rowCount ← match allEqualValue (present.map env.rangeEnd) with
    | .ok n => pure n
    | .error true => Fallible.fail .TableCommitmentRangeMismatch
    | .error false => Fallible.fail .NoCommitments
  let order ← match allEqualValue (present.map (columnOrder env)) with
    | .ok o => pure o
    | .error true => Fallible.fail .TableCommitmentColumnOrderMismatch
    | .error false => Fallible.fail .NoCommitments
  let insertData := insertData.withColumnOrder order
  let commitments ← previousCommitments.traverse (appendOnChainTableToTableCommitment env insertData)
  let insertWithMetaColumns ← (onChainTableWithRowNumberColumn upper insertData rowCount).mapErr Empty.elim
  pure (⟨insertWithMetaColumns⟩, commitments)

/-- What a successful insert did: the present commitments share a row count and a column
order, each had the reordered insert appended, and the reordered insert was numbered from the
row count. -/
theorem processInsert_ok {upper : CaseMapping} {d : OnChainTable} {cs cs' : Commitments C}
    {m : InsertAndCommitmentMetadata} (h : processInsert env upper d cs = .ok (m, cs')) :
    ∃ rowCount order,
      allEqualValue ((cs.intoFlatIter.map AnyCommitmentScheme.unwrap).map env.rangeEnd) = .ok rowCount ∧
      allEqualValue ((cs.intoFlatIter.map AnyCommitmentScheme.unwrap).map (columnOrder env)) = .ok order ∧
      cs.traverse (appendOnChainTableToTableCommitment env (d.withColumnOrder order)) = .ok cs' ∧
      onChainTableWithRowNumberColumn upper (d.withColumnOrder order) rowCount = .ok m.insertWithMetaColumns := by
  unfold processInsert at h
  dsimp only at h
  -- each check fails the call on a mismatch and on an empty list
  split at h
  · rename_i rowCount hrow
    rw [pure_bind] at h
    split at h
    · rename_i order horder
      rw [pure_bind] at h
      simp only [Fallible.bind_eq_ok] at h
      obtain ⟨cs'', htrav, t, ht, hm⟩ := h
      cases hm
      exact ⟨rowCount, order, hrow, horder, htrav, Fallible.mapErr_eq_ok.mp ht⟩
    · simp [Fallible.fail] at h
    · simp [Fallible.fail] at h
  · simp [Fallible.fail] at h
  · simp [Fallible.fail] at h

end Env

/-! ## Commitments to metadata

A table commitment as far as the pallets look at it: the identifiers and types of its columns
and its row range. proof-of-sql checks an append against exactly these, so this instance of
`PosqlEnv` accepts and rejects appends as the real commitments do. -/

/-- A table commitment reduced to its column metadata and row range. -/
structure MetaCommitment where
  columns : List (Ident × ColumnType)
  rangeStart : ℕ
  rangeEnd : ℕ
deriving DecidableEq

namespace MetaCommitment

/-- The identifiers and types of columns to commit to. -/
def metadataOf (cols : List (Ident × CommittableColumn)) : List (Ident × ColumnType) :=
  cols.map fun e => (e.1, e.2.columnType)

/-- `num_rows_of_columns`: the common length of the columns, zero for none. -/
def numRowsOf (cols : List (Ident × CommittableColumn)) : Except AppendTableCommitmentError ℕ :=
  match allEqualValue (cols.map fun e => e.2.column.len) with
  | .ok n => .ok n
  | .error false => .ok 0
  | .error true => .error .MixedLengthColumns

/-- `try_from_columns_with_offset`: the columns' metadata over the rows from the offset. -/
def tryFromColumnsWithOffset (cols : List (Ident × CommittableColumn)) (offset : ℕ) :
    Except Unit MetaCommitment :=
  match numRowsOf cols with
  | .ok n => if (cols.map Prod.fst).Nodup then .ok ⟨metadataOf cols, offset, offset + n⟩ else .error ()
  | .error _ => .error ()

/-- `try_append_rows`: the columns must have one length and distinct identifiers, and their
identifiers and types must be the commitment's, in order; the range grows by their length. -/
def tryAppendRows (c : MetaCommitment) (cols : List (Ident × CommittableColumn)) :
    Except AppendTableCommitmentError MetaCommitment :=
  (numRowsOf cols).bind fun n =>
    if (cols.map Prod.fst).Nodup then
      if metadataOf cols = c.columns then .ok { c with rangeEnd := c.rangeEnd + n } else .error .Mismatch
    else .error .DuplicateIdents

/-- `try_add`: contiguous ranges over the same columns. -/
def tryAdd (a b : MetaCommitment) : Except Unit MetaCommitment :=
  if a.columns = b.columns ∧ a.rangeEnd = b.rangeStart then .ok ⟨a.columns, a.rangeStart, b.rangeEnd⟩
  else .error ()

end MetaCommitment

/-- proof-of-sql's API on metadata commitments; the scalar field, the encoding's length and
the decoding are those of the scheme. -/
def PosqlEnv.metadata (inScalarBounds : CommitmentScheme → BitVec 256 → Bool)
    (encodedLen : MetaCommitment → ℕ) (decode : CommitmentScheme → List UInt8 → Except Unit MetaCommitment) :
    PosqlEnv MetaCommitment where
  inScalarBounds := inScalarBounds
  tryFromColumnsWithOffset _ := MetaCommitment.tryFromColumnsWithOffset
  tryAppendRows := MetaCommitment.tryAppendRows
  tryAdd := MetaCommitment.tryAdd
  columnMetadata := MetaCommitment.columns
  rangeEnd := MetaCommitment.rangeEnd
  encodedLen := encodedLen
  decode := decode

end SxtNode
