import SxtNode.Model.UuidOptions

/-!
# Column UUIDs are written under a name they are not read from

`update_uuid_in_create_table_statement` writes a column's UUID as the option `NAME = uuid`, and
`uuids_from_sqlparser` reads column UUIDs only from options named `column_NAME_uuid`. A statement
updated with a table UUID and a column UUID therefore reads back the table UUID alone, under
every sqlparser that parses its own display back and every case mapping that is ASCII's on ASCII.

What an update writes is one option for each name, in any case: of the column entries, the
table's `TABLE_UUID` and the statement's own options, in that order, the first that bears the
name (`updateUuidInCreateTableStatement_options`). So the new UUIDs replace any the statement
carried, and a column named like one of the statement's options replaces that option.
-/

set_option autoImplicit false

namespace SxtNode

section Written

variable {B : Type} (sql : SqlparserEnv B)

/-- An update that succeeds parsed the statement and read the UUID; the builder it printed holds
options with pairwise distinct names, in any case, each the first entry of its name; and the
stored statement parses back to that builder when sqlparser parses its own display of it. -/
theorem updateUuidInCreateTableStatement_options {upper : CaseMapping} {uuid : TableUuid}
    {columnUuids : ColumnUuidList} {statement updated : CreateStatement}
    (hupdate : updateUuidInCreateTableStatement sql upper uuid columnUuids statement = .ok updated) :
    ∃ table tableUuidStr, createStatementToSqlparser sql statement = .ok table ∧
      fromUtf8 uuid.toList = some tableUuidStr ∧
      (sql.ParsesDisplay (sql.setWithOptions table (uuidOptions upper columnUuids.toList tableUuidStr
          (sql.withOptions table))) →
        createStatementToSqlparser sql updated =
          .ok (sql.setWithOptions table (uuidOptions upper columnUuids.toList tableUuidStr (sql.withOptions table)))) ∧
      (sql.withOptions (sql.setWithOptions table (uuidOptions upper columnUuids.toList tableUuidStr
          (sql.withOptions table)))).Pairwise (fun a b => optionKey upper a ≠ optionKey upper b) ∧
      ∀ a, a ∈ sql.withOptions (sql.setWithOptions table (uuidOptions upper columnUuids.toList tableUuidStr
          (sql.withOptions table))) ↔
        (uuidEntries columnUuids.toList tableUuidStr (sql.withOptions table)).find?
          (fun x => optionKey upper x == optionKey upper a) = some a := by
  obtain ⟨table, tableUuidStr, hparse, hstr, hprint⟩ := updateUuidInCreateTableStatement_ok sql hupdate
  refine ⟨table, tableUuidStr, hparse, hstr, fun hdisplay => createStatementToSqlparser_of_print sql hprint hdisplay,
    ?_, fun a => ?_⟩
  · rw [sql.withOptions_setWithOptions]
    exact pairwise_optionKey_uuidOptions upper _ _ _
  · rw [sql.withOptions_setWithOptions]
    exact mem_uuidOptions_iff

end Written

namespace UuidOptions

theorem length_utf8Bytes_u1_le : (utf8Bytes "u1").length ≤ IDENT_LENGTH := by
  decide

theorem length_utf8Bytes_A_le : (utf8Bytes "A").length ≤ IDENT_LENGTH := by
  decide

theorem length_utf8Bytes_u2_le : (utf8Bytes "u2").length ≤ IDENT_LENGTH := by
  decide

/-- The UUID `u1`. -/
def uuidU1 : TableUuid := ⟨utf8Bytes "u1", length_utf8Bytes_u1_le⟩

/-- The column `A` with the UUID `u2`. -/
def columnAU2 : ColumnUuid :=
  ⟨⟨utf8Bytes "A", length_utf8Bytes_A_le⟩, ⟨utf8Bytes "u2", length_utf8Bytes_u2_le⟩⟩

def columnsAU2 : ColumnUuidList := ⟨[columnAU2], by simp [MAX_COLS_PER_TABLE]⟩

theorem fromUtf8_uuidU1 : fromUtf8 uuidU1.toList = some "u1" := fromUtf8_utf8Bytes "u1"

theorem uuidEntries_columnAU2 :
    uuidEntries [columnAU2] "u1" [] = [⟨Ident.new "A", .UnQuotedString "u2"⟩, tableUuidOption "u1"] := by
  simp only [uuidEntries, columnUuidOptions, columnAU2]
  rfl

/-- `A` sorts before `TABLE_UUID`, so the two entries are written as they are. -/
theorem uuidOptions_columnAU2 {upper : CaseMapping} (hupper : upper.AsciiLawful) :
    uuidOptions upper [columnAU2] "u1" [] = uuidEntries [columnAU2] "u1" [] := by
  have hA : optionKey upper ⟨Ident.new "A", .UnQuotedString "u2"⟩ = "A" := by
    rw [optionKey, toUppercase_of_ascii hupper (by decide)]
    decide
  have hT : optionKey upper (tableUuidOption "u1") = "TABLE_UUID" := by
    rw [optionKey, tableUuidOption, toUppercase_of_ascii hupper (by decide)]
    decide
  apply uuidOptions_of_pairwise_lt
  rw [uuidEntries_columnAU2, List.pairwise_pair, hA, hT]
  decide

/-- The table UUID is read from `TABLE_UUID`, which is `table_uuid` in lower case; `A` is not. -/
theorem tableUuidOfOptions_columnAU2 {lower : CaseMapping} (hlower : lower.AsciiLowerLawful) :
    tableUuidOfOptions lower default (uuidEntries [columnAU2] "u1" []) = .ok uuidU1 := by
  have hA : toLowercase lower "A" = "a" := by
    rw [toLowercase_of_ascii hlower (by decide)]
    decide
  have hT : toLowercase lower "TABLE_UUID" = "table_uuid" := by
    rw [toLowercase_of_ascii hlower (by decide)]
    decide
  rw [uuidEntries_columnAU2]
  simp only [tableUuidOfOptions, tableUuidOption, Ident.new, hA, hT]
  rfl

/-- A statement without options, updated with the table UUID `u1` and the column UUID `A = u2`,
reads back `u1` and no column UUID. -/
theorem columnUuids_not_read_back {B : Type} (sql : SqlparserEnv B) {upper lower : CaseMapping}
    (hupper : upper.AsciiLawful) (hlower : lower.AsciiLowerLawful) {statement updated : CreateStatement} {table : B}
    (hparse : createStatementToSqlparser sql statement = .ok table) (hplain : sql.withOptions table = [])
    (hdisplay : sql.ParsesDisplay (sql.setWithOptions table (uuidEntries [columnAU2] "u1" [])))
    (hupdate : updateUuidInCreateTableStatement sql upper uuidU1 columnsAU2 statement = .ok updated) :
    uuidsFromCreateStatement sql lower updated = .ok (some (uuidU1, BoundedVec.empty)) := by
  obtain ⟨table', tableUuidStr, hparse', hstr, hprint⟩ := updateUuidInCreateTableStatement_ok sql hupdate
  rw [hparse] at hparse'
  cases hparse'
  rw [fromUtf8_uuidU1] at hstr
  cases hstr
  have hwritten : uuidOptions upper columnsAU2.toList "u1" (sql.withOptions table) = uuidEntries [columnAU2] "u1" [] := by
    rw [hplain]
    exact uuidOptions_columnAU2 hupper
  rw [hwritten] at hprint
  -- the updated statement parses back to the builder with the two entries
  rw [uuidsFromCreateStatement, createStatementToSqlparser_of_print sql hprint hdisplay]
  have hnames : ∀ o ∈ sql.withOptions (sql.setWithOptions table (uuidEntries [columnAU2] "u1" [])),
      o.name.value.startsWith "column_" = false := by
    rw [sql.withOptions_setWithOptions, uuidEntries_columnAU2]
    decide +kernel
  have htable : tableUuidOfOptions lower default
      (sql.withOptions (sql.setWithOptions table (uuidEntries [columnAU2] "u1" []))) = .ok uuidU1 := by
    rw [sql.withOptions_setWithOptions]
    exact tableUuidOfOptions_columnAU2 hlower
  simp only [uuidsFromSqlparser_of_no_column_names sql hnames htable]
  rfl

/-- `CREATE TABLE NS.T (A BIGINT NOT NULL)`. -/
def plainText : String := "CREATE TABLE NS.T (A BIGINT NOT NULL)"

/-- The same statement with the options `A = u2, TABLE_UUID = u1`. -/
def uuidText : String := "CREATE TABLE NS.T (A BIGINT NOT NULL) WITH (A = u2, TABLE_UUID = u1)"

def plainStatement : CreateStatement := ⟨utf8Bytes plainText, by decide⟩

def uuidStatement : CreateStatement := ⟨utf8Bytes uuidText, by decide⟩

/-- A sqlparser that knows the statement without options and with the two entries; its builders
are their options. -/
def optionsSqlparser : SqlparserEnv (List SqlOption) where
  parseCreateTable text :=
    if text = plainText then .ok [] else if text = uuidText then .ok (uuidEntries [columnAU2] "u1" []) else .error ()
  display options :=
    if options = [] then plainText else if options = uuidEntries [columnAU2] "u1" [] then uuidText else ""
  withOptions options := options
  setWithOptions _ options := options
  withOptions_setWithOptions _ _ := rfl

theorem plainStatement_parse : createStatementToSqlparser optionsSqlparser plainStatement = .ok [] := by
  rw [createStatementToSqlparser, show plainStatement.toList = utf8Bytes plainText from rfl, fromUtf8_utf8Bytes]
  rfl

theorem plainStatement_update :
    updateUuidInCreateTableStatement optionsSqlparser asciiCaseMapping uuidU1 columnsAU2 plainStatement =
      .ok uuidStatement := by
  rw [updateUuidInCreateTableStatement_of_parse optionsSqlparser plainStatement_parse fromUtf8_uuidU1]
  simp only [columnsAU2, optionsSqlparser]
  rw [uuidOptions_columnAU2 asciiCaseMapping_asciiLawful]
  rfl

theorem plainStatement_columnUuids_not_read_back :
    updateUuidInCreateTableStatement optionsSqlparser asciiCaseMapping uuidU1 columnsAU2 plainStatement =
        .ok uuidStatement ∧
      uuidsFromCreateStatement optionsSqlparser asciiLowerCaseMapping uuidStatement =
        .ok (some (uuidU1, BoundedVec.empty)) := by
  have hdisplay : optionsSqlparser.ParsesDisplay (optionsSqlparser.setWithOptions [] (uuidEntries [columnAU2] "u1" [])) := by
    rw [uuidEntries_columnAU2]
    rfl
  exact ⟨plainStatement_update, columnUuids_not_read_back optionsSqlparser asciiCaseMapping_asciiLawful
    asciiLowerCaseMapping_asciiLowerLawful plainStatement_parse rfl hdisplay plainStatement_update⟩

/-- The plain statement, updated, holds the options `A = u2` and `TABLE_UUID = u1`, with distinct
names, and reads back as the builder with them. -/
theorem plainStatement_update_options :
    ∃ table tableUuidStr, createStatementToSqlparser optionsSqlparser plainStatement = .ok table ∧
      fromUtf8 uuidU1.toList = some tableUuidStr ∧
      (optionsSqlparser.ParsesDisplay (optionsSqlparser.setWithOptions table (uuidOptions asciiCaseMapping
          columnsAU2.toList tableUuidStr (optionsSqlparser.withOptions table))) →
        createStatementToSqlparser optionsSqlparser uuidStatement =
          .ok (optionsSqlparser.setWithOptions table (uuidOptions asciiCaseMapping columnsAU2.toList tableUuidStr
            (optionsSqlparser.withOptions table)))) ∧
      (optionsSqlparser.withOptions (optionsSqlparser.setWithOptions table (uuidOptions asciiCaseMapping
          columnsAU2.toList tableUuidStr (optionsSqlparser.withOptions table)))).Pairwise
        (fun a b => optionKey asciiCaseMapping a ≠ optionKey asciiCaseMapping b) ∧
      ∀ a, a ∈ optionsSqlparser.withOptions (optionsSqlparser.setWithOptions table (uuidOptions asciiCaseMapping
          columnsAU2.toList tableUuidStr (optionsSqlparser.withOptions table))) ↔
        (uuidEntries columnsAU2.toList tableUuidStr (optionsSqlparser.withOptions table)).find?
          (fun x => optionKey asciiCaseMapping x == optionKey asciiCaseMapping a) = some a :=
  updateUuidInCreateTableStatement_options optionsSqlparser plainStatement_update

end UuidOptions

end SxtNode
