import Mathlib.Data.String.Basic
import SxtNode.Model.Tables
import SxtNode.Lib.SortDedup

/-!
# The UUIDs in a table's `WITH` options (`sxt_core::tables`)

`update_uuid_in_create_table_statement` writes a table's UUID and its columns' UUIDs into the
`WITH` options of its `CREATE TABLE` statement: the column entries `NAME = uuid`, then
`TABLE_UUID = uuid`, then the statement's own options, stably sorted by their uppercased names,
of which the first of each name is kept. `uuids_from_create_statement` reads them back: the
columns from the options named `column_NAME_uuid`, the table from the last option named
`table_uuid` in any case.

sqlparser is third-party: `SqlparserEnv` parses a statement's text to a `CreateTableBuilder`,
displays a builder, and reads and sets its `WITH` options. Lowercasing, like uppercasing, is a
`CaseMapping`; Rust's `str::to_lowercase` also maps a final `Σ` by its context, which no
comparison with `table_uuid` can tell apart.
-/

set_option autoImplicit false

namespace SxtNode

/-- `Expr` as an option's value: the unquoted string the UUID helpers write, or any other
expression, as the text it displays. -/
inductive OptionValue where
  | UnQuotedString (value : String)
  | Other (text : String)
deriving DecidableEq, Repr

/-- `Expr::to_string`. -/
def OptionValue.toString : OptionValue → String
  | .UnQuotedString value => value
  | .Other text => text

/-- `SqlOption`: a `WITH` option `name = value`. -/
structure SqlOption where
  name : Ident
  value : OptionValue
deriving DecidableEq, Repr

/-- `CreateStatementParseError`, with the errors it wraps left out. -/
inductive CreateStatementParseError where
  | StatementTooLarge
  | Utf8
  | Sqlparser
deriving DecidableEq, Repr

/-- sqlparser's `CreateTableBuilder` `B`, as the UUID helpers use it. -/
structure SqlparserEnv (B : Type) where
  /-- `Parser::new(&PostgreSqlDialect {}).try_with_sql(sql)?.parse_statement()?.try_into()?`. -/
  parseCreateTable : String → Except Unit B
  /-- `create_table.build().to_string()`. -/
  display : B → String
  /-- The field `with_options`. -/
  withOptions : B → List SqlOption
  /-- `CreateTableBuilder::with_options`, which sets the field. -/
  setWithOptions : B → List SqlOption → B
  withOptions_setWithOptions : ∀ b options, withOptions (setWithOptions b options) = options

/-- sqlparser parses the text it displays for `b` back to `b`. -/
def SqlparserEnv.ParsesDisplay {B : Type} (sql : SqlparserEnv B) (b : B) : Prop :=
  sql.parseCreateTable (sql.display b) = .ok b

/-- `str::to_lowercase`, by Unicode's lowercase mapping of each character. -/
def toLowercase (lower : CaseMapping) (s : String) : String :=
  String.ofList (s.toList.flatMap lower)

/-- On ASCII characters the lowercase mapping is ASCII lowercasing. -/
def CaseMapping.AsciiLowerLawful (lower : CaseMapping) : Prop :=
  ∀ c : Char, c.toNat < 128 → lower c = [c.toLower]

/-- The mapping that lowercases ASCII letters and keeps every other character. -/
def asciiLowerCaseMapping : CaseMapping := fun c => [c.toLower]

theorem asciiLowerCaseMapping_asciiLowerLawful : asciiLowerCaseMapping.AsciiLowerLawful := fun _ _ => rfl

theorem toLowercase_of_ascii {lower : CaseMapping} (hlower : lower.AsciiLowerLawful) {s : String}
    (hs : (s.toList.all fun c => c.toNat < 128) = true) :
    toLowercase lower s = String.ofList (s.toList.map Char.toLower) := by
  rw [toLowercase, flatMap_of_ascii hlower hs]

variable {B : Type} (sql : SqlparserEnv B)

/-- `create_statement_to_sqlparser`. -/
def createStatementToSqlparser (createStatement : CreateStatement) : Except CreateStatementParseError B :=
  match fromUtf8 createStatement.toList with
  | none => .error .Utf8
  | some rawSql => (sql.parseCreateTable rawSql).mapError fun _ => .Sqlparser

/-- `sqlparser_to_create_statement`. -/
def sqlparserToCreateStatement (createTable : B) : Except CreateStatementParseError CreateStatement :=
  match BoundedVec.ofList? (utf8Bytes (sql.display createTable)) with
  | some statement => .ok statement
  | none => .error .StatementTooLarge

/-- The name options are sorted and deduplicated by: `name.value.to_uppercase()`. -/
def optionKey (upper : CaseMapping) (option : SqlOption) : String :=
  toUppercase upper option.name.value

/-- The column entries, `NAME = uuid`, of the columns whose name and UUID are utf8. -/
def columnUuidOptions (columnUuids : List ColumnUuid) : List SqlOption :=
  columnUuids.filterMap fun entry =>
    match fromUtf8 entry.name.toList, fromUtf8 entry.uuid.toList with
    | some name, some val => some ⟨Ident.new name, .UnQuotedString val⟩
    | _, _ => none

/-- The entry `TABLE_UUID = uuid`. -/
def tableUuidOption (tableUuidStr : String) : SqlOption :=
  ⟨Ident.new "TABLE_UUID", .UnQuotedString tableUuidStr⟩

/-- The options before sorting: the column entries, the table's, then the statement's own. -/
def uuidEntries (columnUuids : List ColumnUuid) (tableUuidStr : String) (withOptions : List SqlOption) :
    List SqlOption :=
  columnUuidOptions columnUuids ++ [tableUuidOption tableUuidStr] ++ withOptions

/-- The options `update_uuid_in_create_table_statement` writes: the entries sorted stably by key
(`sort_by`), then the first of each key (`dedup_by`). -/
def uuidOptions (upper : CaseMapping) (columnUuids : List ColumnUuid) (tableUuidStr : String)
    (withOptions : List SqlOption) : List SqlOption :=
  ((uuidEntries columnUuids tableUuidStr withOptions).mergeSort
    fun a b => decide (optionKey upper a ≤ optionKey upper b)).dedupBy
    fun a b => optionKey upper a == optionKey upper b

/-- `update_uuid_in_create_table_statement`. -/
def updateUuidInCreateTableStatement (upper : CaseMapping) (uuid : TableUuid) (columnUuids : ColumnUuidList)
    (statement : CreateStatement) : Except UpdateUuidError CreateStatement := do
  let table ← (createStatementToSqlparser sql statement).mapError fun _ => .ParseError
  match fromUtf8 uuid.toList with
  | none => throw .InvalidUuid
  | some tableUuidStr =>
    let entries := uuidOptions upper columnUuids.toList tableUuidStr (sql.withOptions table)
    (sqlparserToCreateStatement sql (sql.setWithOptions table entries)).mapError fun _ => .ParseError

/-- `extract_column_name`: the `NAME` of `column_NAME_uuid`. The slice `&input[7..len - 5]`
panics when the prefix and the suffix overlap, which they do in `column_uuid` only; otherwise
both are ASCII, so it drops seven characters in front and five behind. -/
def extractColumnName (input : String) : Fallible Empty (Option String) :=
  if input.startsWith "column_" && input.endsWith "_uuid" then
    if input.utf8ByteSize < 12 then Fallible.abort "begin <= end (7 <= 6) when slicing column_uuid"
    else .ok (some ((input.drop 7).dropEnd 5).copy)
  else .ok none

/-- A bounded byte vector from a string's bytes, unwrapped: `T::try_from(..).unwrap()`. -/
def unwrapBytes {n : ℕ} (s : String) : Fallible Empty (BoundedVec UInt8 n) :=
  Fallible.expect (BoundedVec.ofList? (utf8Bytes s)) "called Result::unwrap() on an Err value"

/-- The column UUID an option names, if its name is `column_NAME_uuid`. -/
def columnUuidOfOption (option : SqlOption) : Fallible Empty (Option ColumnUuid) := do
  let columnName ← extractColumnName option.name.value
  match columnName with
  | none => pure none
  | some name => do
    let name ← unwrapBytes name
    let uuid ← unwrapBytes option.value.toString
    pure (some ⟨name, uuid⟩)

/-- The loop of `uuids_from_sqlparser` over the options for the table UUID: the value of the last
option named `table_uuid` in any case; each such value is unwrapped. -/
def tableUuidOfOptions (lower : CaseMapping) : TableUuid → List SqlOption → Fallible Empty TableUuid
  | tableUuid, [] => .ok tableUuid
  | tableUuid, option :: rest =>
    if toLowercase lower option.name.value = "table_uuid" then do
      let tableUuid ← unwrapBytes option.value.toString
      tableUuidOfOptions lower tableUuid rest
    else tableUuidOfOptions lower tableUuid rest

/-- `uuids_from_sqlparser`. -/
def uuidsFromSqlparser (lower : CaseMapping) (createTable : B) : Fallible Empty (TableUuid × ColumnUuidList) := do
  let options := sql.withOptions createTable
  let columns ← options.filterMapM columnUuidOfOption
  let columnIdList ← Fallible.expect (BoundedVec.ofList? columns) "Column Ids List must not contain more than 64"
  let tableUuid ← tableUuidOfOptions lower default options
  pure (tableUuid, columnIdList)

/-- `uuids_from_create_statement`. -/
def uuidsFromCreateStatement (lower : CaseMapping) (createStatement : CreateStatement) :
    Fallible Empty (Option (TableUuid × ColumnUuidList)) :=
  match createStatementToSqlparser sql createStatement with
  | .ok createTable => (uuidsFromSqlparser sql lower createTable).map some
  | .error _ => .ok none

/-- The DDL helpers of `ddl` with `update_uuid_in_create_table_statement` and
`uuids_from_create_statement` as this module defines them over `sql`. -/
def DdlEnv.withUuidHelpers (ddl : DdlEnv) (upper lower : CaseMapping) : DdlEnv :=
  { ddl with
    updateUuid := updateUuidInCreateTableStatement sql upper
    uuidsFromCreateStatement := SxtNode.uuidsFromCreateStatement sql lower }

/-! ## Writing -/

theorem sqlparserToCreateStatement_toList {b : B} {statement : CreateStatement}
    (h : sqlparserToCreateStatement sql b = .ok statement) : statement.toList = utf8Bytes (sql.display b) := by
  simp only [sqlparserToCreateStatement, BoundedVec.ofList?] at h
  split at h
  · rename_i o hofList
    split at hofList
    · cases hofList
      cases h
      rfl
    · cases hofList
  · cases h

/-- A statement printed from a builder parses back to the builder when sqlparser parses its own
display of it. -/
theorem createStatementToSqlparser_of_print {b : B} {statement : CreateStatement}
    (h : sqlparserToCreateStatement sql b = .ok statement) (hdisplay : sql.ParsesDisplay b) :
    createStatementToSqlparser sql statement = .ok b := by
  have hparse : sql.parseCreateTable (sql.display b) = .ok b := hdisplay
  rw [createStatementToSqlparser, sqlparserToCreateStatement_toList sql h, fromUtf8_utf8Bytes]
  simp only [hparse]
  rfl

/-- What an update that succeeds did: parsed the statement, read the UUID as utf8, and printed
the builder with the options `uuidOptions` computes. -/
theorem updateUuidInCreateTableStatement_ok {upper : CaseMapping} {uuid : TableUuid} {columnUuids : ColumnUuidList}
    {statement updated : CreateStatement}
    (h : updateUuidInCreateTableStatement sql upper uuid columnUuids statement = .ok updated) :
    ∃ table tableUuidStr, createStatementToSqlparser sql statement = .ok table ∧
      fromUtf8 uuid.toList = some tableUuidStr ∧
      sqlparserToCreateStatement sql
        (sql.setWithOptions table (uuidOptions upper columnUuids.toList tableUuidStr (sql.withOptions table))) =
        .ok updated := by
  obtain ⟨table, htable, h⟩ := Except.bind_eq_ok_iff.mp h
  rw [Except.mapError_eq_ok_iff] at htable
  split at h
  · cases h
  · rename_i tableUuidStr hstr
    exact ⟨table, tableUuidStr, htable, hstr, Except.mapError_eq_ok_iff.mp h⟩

/-- An update of a statement that parses, with a UUID that is utf8, prints the builder with the
options `uuidOptions` computes. -/
theorem updateUuidInCreateTableStatement_of_parse {upper : CaseMapping} {uuid : TableUuid}
    {columnUuids : ColumnUuidList} {statement : CreateStatement} {table : B} {tableUuidStr : String}
    (hparse : createStatementToSqlparser sql statement = .ok table) (hstr : fromUtf8 uuid.toList = some tableUuidStr) :
    updateUuidInCreateTableStatement sql upper uuid columnUuids statement =
      (sqlparserToCreateStatement sql
        (sql.setWithOptions table (uuidOptions upper columnUuids.toList tableUuidStr (sql.withOptions table)))).mapError
        fun _ => .ParseError := by
  simp only [updateUuidInCreateTableStatement, hparse, hstr]
  rfl

/-- No two options written share a name, in any case. -/
theorem pairwise_optionKey_uuidOptions (upper : CaseMapping) (columnUuids : List ColumnUuid) (tableUuidStr : String)
    (withOptions : List SqlOption) :
    (uuidOptions upper columnUuids tableUuidStr withOptions).Pairwise
      fun a b => optionKey upper a ≠ optionKey upper b :=
  List.pairwise_ne_dedupBy (optionKey upper) (List.pairwise_key_mergeSort _ _)

/-- The options written are exactly the first entry of each name: an entry is written when no
entry before it has its name, in any case. -/
theorem mem_uuidOptions_iff {upper : CaseMapping} {columnUuids : List ColumnUuid} {tableUuidStr : String}
    {withOptions : List SqlOption} {a : SqlOption} :
    a ∈ uuidOptions upper columnUuids tableUuidStr withOptions ↔
      (uuidEntries columnUuids tableUuidStr withOptions).find? (fun x => optionKey upper x == optionKey upper a) =
        some a := by
  have hsorted : ((uuidEntries columnUuids tableUuidStr withOptions).mergeSort
      fun a b => decide (optionKey upper a ≤ optionKey upper b)).Pairwise
      fun a b => optionKey upper a ≤ optionKey upper b :=
    List.pairwise_key_mergeSort (optionKey upper) _
  constructor
  · intro ha
    rw [← List.find?_key_mergeSort]
    exact List.find?_of_mem_dedupBy (optionKey upper) hsorted ha
  · intro hfirst
    -- some option of `a`'s key is written, and it is the first entry of that key, which is `a`
    have hmem : a ∈ (uuidEntries columnUuids tableUuidStr withOptions).mergeSort
        fun a b => decide (optionKey upper a ≤ optionKey upper b) :=
      List.mem_mergeSort.mpr (List.mem_of_find?_eq_some hfirst)
    obtain ⟨y, hy, hya⟩ := List.exists_key_mem_dedupBy (optionKey upper) hmem
    have hyfirst := List.find?_of_mem_dedupBy (optionKey upper) hsorted hy
    rw [List.find?_key_mergeSort, hya, hfirst] at hyfirst
    cases hyfirst
    exact hy

/-- Entries whose names already increase strictly, in any case, are written as they are. -/
theorem uuidOptions_of_pairwise_lt {upper : CaseMapping} {columnUuids : List ColumnUuid} {tableUuidStr : String}
    {withOptions : List SqlOption}
    (hlt : (uuidEntries columnUuids tableUuidStr withOptions).Pairwise
      fun a b => optionKey upper a < optionKey upper b) :
    uuidOptions upper columnUuids tableUuidStr withOptions = uuidEntries columnUuids tableUuidStr withOptions :=
  List.dedupBy_mergeSort_of_pairwise_lt (optionKey upper) hlt

/-! ## Reading -/

theorem extractColumnName_of_not_startsWith {input : String} (h : input.startsWith "column_" = false) :
    extractColumnName input = .ok none := by
  simp [extractColumnName, h]

theorem filterMapM_eq_ok_nil {α β ε : Type} {f : α → Except ε (Option β)} {l : List α}
    (h : ∀ a ∈ l, f a = .ok none) : l.filterMapM f = .ok [] := by
  induction l with
  | nil => rfl
  | cons a l ih =>
    rw [List.filterMapM_cons, h a List.mem_cons_self]
    exact ih fun b hb => h b (List.mem_cons_of_mem a hb)

/-- Options none of which is named `column_NAME_uuid` give no column UUID. -/
theorem uuidsFromSqlparser_of_no_column_names {lower : CaseMapping} {b : B} {tableUuid : TableUuid}
    (hnames : ∀ o ∈ sql.withOptions b, o.name.value.startsWith "column_" = false)
    (htable : tableUuidOfOptions lower default (sql.withOptions b) = .ok tableUuid) :
    uuidsFromSqlparser sql lower b = .ok (tableUuid, BoundedVec.empty) := by
  have hcolumns : (sql.withOptions b).filterMapM columnUuidOfOption = .ok [] := by
    refine filterMapM_eq_ok_nil fun o ho => ?_
    rw [columnUuidOfOption, extractColumnName_of_not_startsWith (hnames o ho)]
    rfl
  simp only [uuidsFromSqlparser, hcolumns, htable]
  rfl

end SxtNode
