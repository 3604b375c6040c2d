import Mathlib.Data.List.DropRight
import SxtNode.Lib.TextSearch
import SxtNode.Lib.Hex
import SxtNode.Model.UuidOptions

/-!
# The DDL text helpers of `sxt_core::tables`

Besides sqlparser, the tables pallet reads the text of a statement with helpers of its own.
`extract_schema_uuid` reads the `SCHEMA_UUID` option of a `CREATE SCHEMA` statement from the
text after its first `WITH (`. `create_statement_to_sqlparser_remove_with` parses a
`CREATE TABLE` statement without its `WITH` clause, which `strip_with_clause` cuts off at the
last `WITH` of the text, and hands the clause back; the pallet appends it again to the statement
it prints. `generate_uuid` writes two numbers of a generator seeded with a hash of its source as
32 upper-case hexadecimal digits, and the UUIDs of a table and of a namespace are made with it
from the block number and the names; a column's UUID is its name.

The hash `blake2_256` and the generator `ChaCha20Rng` are third-party: `UuidRng` gives the two
numbers the generator yields first for a source. `DdlEnv.withTextHelpers` puts these helpers and
the UUID options' (`DdlEnv.withUuidHelpers`), over sqlparser, in the place of the parameters of
`DdlEnv`; printing a builder stays a parameter.
-/

set_option autoImplicit false

namespace SxtNode

/-! ## Trimming -/

/-- `char::is_whitespace`: the characters of Unicode's `White_Space` property. -/
def isWhitespace (c : Char) : Bool :=
  let n := c.toNat
  (0x09 ≤ n && n ≤ 0x0D) || n == 0x20 || n == 0x85 || n == 0xA0 || n == 0x1680 || (0x2000 ≤ n && n ≤ 0x200A) ||
    n == 0x2028 || n == 0x2029 || n == 0x202F || n == 0x205F || n == 0x3000

/-- `str::trim_end`. -/
def trimEnd (s : String) : String := String.ofList (s.toList.rdropWhile isWhitespace)

/-- `str::trim`. -/
def trim (s : String) : String := String.ofList ((s.toList.rdropWhile isWhitespace).dropWhile isWhitespace)

/-! ## `strip_with_clause` -/

/-- `strip_with_clause`: the statement before its last `WITH`, trimmed at its end, and the clause
from there, without the semicolons at its end and trimmed; with no `WITH`, the statement without
the semicolons at its end, trimmed there. -/
def stripWithClause (sql : String) : String × Option String :=
  match List.splitLast? "WITH".toList sql.toList with
  | some (beforeWith, withAndRest) =>
    (trimEnd (String.ofList beforeWith), some (trim (Tables.trimEndSemicolons (String.ofList withAndRest))))
  | none => (trimEnd (Tables.trimEndSemicolons sql), none)

/-- With no `WITH` among its options, the clause that `WITH (` opens is the one cut off. -/
theorem stripWithClause_of_not_isInfix {body opts : String} (hopts : ¬"WITH".toList <:+: opts.toList) :
    stripWithClause (body ++ "WITH (" ++ opts) =
      (trimEnd body, some (trim (Tables.trimEndSemicolons ("WITH (" ++ opts)))) := by
  -- no later `WITH` can begin inside `ITH (`, which has no `W`
  have hlater : ¬"WITH".toList <:+: ("WITH (" ++ opts).toList.tail := by
    have htail : ("WITH (" ++ opts).toList.tail = "ITH (".toList ++ opts.toList := by
      simp [String.toList_append]
    rw [htail]
    exact fun h => hopts (List.cons_isInfix_append_of_not_mem (by decide) h)
  have hprefix : "WITH".toList <+: ("WITH (" ++ opts).toList := by
    rw [String.toList_append]
    exact List.prefix_append_of_prefix (by decide)
  rw [String.append_assoc, stripWithClause, String.toList_append, List.splitLast?_append body.toList hprefix hlater]
  simp only [String.ofList_toList]

/-- A `WITH` among the options moves the cut there, past the clause's `WITH (`. -/
theorem stripWithClause_of_isInfix {body opts : String} (hopts : "WITH".toList <:+: opts.toList) :
    ∃ b w, List.splitLast? "WITH".toList opts.toList = some (b, w) ∧
      stripWithClause (body ++ "WITH (" ++ opts) =
        (trimEnd (body ++ "WITH (" ++ String.ofList b), some (trim (Tables.trimEndSemicolons (String.ofList w)))) := by
  obtain ⟨⟨b, w⟩, hcut⟩ := Option.isSome_iff_exists.mp (List.isSome_splitLast? hopts)
  refine ⟨b, w, hcut, ?_⟩
  rw [stripWithClause, String.toList_append, List.splitLast?_append_of_isInfix (body ++ "WITH (").toList hopts, hcut]
  simp only [Option.map_some, String.ofList_append, String.ofList_toList]

/-! ## `extract_schema_uuid` -/

/-- `str::eq_ignore_ascii_case`. Lowering ASCII letters keeps the bytes of every other character,
so comparing the lowered characters compares the lowered bytes. -/
def eqIgnoreAsciiCase (a b : String) : Bool :=
  a.toList.map Char.toLower == b.toList.map Char.toLower

/-- `option.splitn(2, '=').map(str::trim)` read as a key and a value: the trimmed texts before
and after the first `=`, none without one. -/
def splitKeyValue (option : List Char) : Option (String × String) :=
  match option.span (· != '=') with
  | (key, _ :: value) => some (trim (String.ofList key), trim (String.ofList value))
  | (_, []) => none

theorem splitKeyValue_append {key value : List Char} (hkey : '=' ∉ key) :
    splitKeyValue (key ++ '=' :: value) = some (trim (String.ofList key), trim (String.ofList value)) := by
  have hne : ∀ c ∈ key, (c != '=') = true := fun c hc => by
    simpa using fun h : c = '=' => hkey (h ▸ hc)
  have hspan : (key ++ '=' :: value).span (· != '=') = (key, '=' :: value) := by
    rw [List.span_eq_takeWhile_dropWhile, List.takeWhile_append_of_pos hne, List.dropWhile_append_of_pos hne]
    simp
  rw [splitKeyValue, hspan]

/-- The loop body of `extract_schema_uuid`: the value of an option named `SCHEMA_UUID`, in any
case. -/
def schemaUuidOfOption (option : List Char) : Option String := do
  let (key, value) ← splitKeyValue option
  if eqIgnoreAsciiCase key "SCHEMA_UUID" then some value else none

/-- `extract_schema_uuid`: the value of the first option named `SCHEMA_UUID`, in any case, among
the options between the first `WITH (` and the `)` after it. -/
def extractSchemaUuid (sql : String) : Option String := do
  let (_, withAndRest) ← List.splitFirst? "WITH (".toList sql.toList
  -- `&sql[with_start + 6..]`: past the six ASCII characters of `WITH (`
  let withPart := withAndRest.drop 6
  let (optionsStr, _) ← List.splitFirst? [')'] withPart
  (optionsStr.splitOn ',').findSome? schemaUuidOfOption

/-- The options read are those between the `WITH (` after a text `pre` that has none of its own,
and the first `)`. -/
theorem extractSchemaUuid_append {pre opts rest : String} (hpre : ¬"WITH (".toList <:+: pre.toList)
    (hopts : ')' ∉ opts.toList) :
    extractSchemaUuid (pre ++ "WITH (" ++ opts ++ ")" ++ rest) = (opts.toList.splitOn ',').findSome? schemaUuidOfOption := by
  -- no `WITH (` ends inside the one after `pre`, whose `(` comes last
  have hearlier : ¬"WITH (".toList <:+: pre.toList ++ "WITH (".toList.dropLast := fun h =>
    hpre (List.concat_isInfix_append_of_not_mem (p := "WITH ".toList) (by decide) h)
  have hwith := List.splitFirst?_append pre.toList
    (List.prefix_append "WITH (".toList (opts.toList ++ ')' :: rest.toList)) hearlier
  have hclose : List.splitFirst? [')'] (opts.toList ++ ')' :: rest.toList) = some (opts.toList, ')' :: rest.toList) :=
    List.splitFirst?_append opts.toList (List.prefix_append [')'] rest.toList)
      (by simpa [List.singleton_infix_iff] using hopts)
  have htext : (pre ++ "WITH (" ++ opts ++ ")" ++ rest).toList =
      pre.toList ++ ("WITH (".toList ++ (opts.toList ++ ')' :: rest.toList)) := by
    simp [String.toList_append]
  rw [extractSchemaUuid, htext, hwith]
  simp only [Option.bind_eq_bind, Option.bind_some, List.drop_left' (show "WITH (".toList.length = 6 by decide)]
  rw [hclose]
  rfl

/-! ## UUIDs -/

/-- The two numbers `ChaCha20Rng::from_seed(blake2_256(source.as_bytes()))` yields first to
`next_u64`. -/
abbrev UuidRng := String → UInt64 × UInt64

/-- `format!("{:016X}{:016X}", part1, part2)`: the two numbers as sixteen upper-case digits each,
the first with its top two bits set. -/
def uuidHex (rng : UuidRng) (source : String) : List Char :=
  let part1 := ((0b1100 : UInt64) <<< 60) ||| (rng source).1
  let part2 := (rng source).2
  Hex.upperFixed 16 part1.toNat ++ Hex.upperFixed 16 part2.toNat

/-- `0b1100 << 60 | x` keeps the 62 low bits of `x` under the two bits it sets. -/
theorem three_shiftLeft_or {n : ℕ} (hn : n < 2 ^ 64) : 3 <<< 62 ||| n = 3 * 2 ^ 62 + n % 2 ^ 62 := by
  have hlow : n % 2 ^ 62 < 2 ^ 62 := Nat.mod_lt _ (Nat.two_pow_pos 62)
  have htop : 3 ||| n >>> 62 = 3 := by
    have hq : n >>> 62 < 4 := by
      rw [Nat.shiftRight_eq_div_pow]
      omega
    obtain h | h | h | h : n >>> 62 = 0 ∨ n >>> 62 = 1 ∨ n >>> 62 = 2 ∨ n >>> 62 = 3 := by omega
    all_goals rw [h]; rfl
  have hsplit : n = n >>> 62 <<< 62 ||| n % 2 ^ 62 := by
    rw [← Nat.shiftLeft_add_eq_or_of_lt hlow, Nat.shiftLeft_eq, Nat.shiftRight_eq_div_pow]
    exact (Nat.div_add_mod' _ _).symm
  calc 3 <<< 62 ||| n = 3 <<< 62 ||| (n >>> 62 <<< 62 ||| n % 2 ^ 62) := by rw [← hsplit]
    _ = (3 ||| n >>> 62) <<< 62 ||| n % 2 ^ 62 := by rw [← Nat.or_assoc, Nat.shiftLeft_or_distrib]
    _ = 3 * 2 ^ 62 + n % 2 ^ 62 := by rw [htop, ← Nat.shiftLeft_add_eq_or_of_lt hlow, Nat.shiftLeft_eq]

theorem toNat_uuidPart1 (x : UInt64) : ((0b1100 : UInt64) <<< 60 ||| x).toNat = 3 * 2 ^ 62 + x.toNat % 2 ^ 62 := by
  have hmask : ((0b1100 : UInt64) <<< 60).toNat = 3 <<< 62 := by decide
  rw [UInt64.toNat_or, hmask, three_shiftLeft_or x.toNat_lt]

@[simp] theorem length_uuidHex (rng : UuidRng) (source : String) : (uuidHex rng source).length = 32 := by
  simp [uuidHex]

theorem mem_upperDigits_of_mem_uuidHex {rng : UuidRng} {source : String} {c : Char} (hc : c ∈ uuidHex rng source) :
    c ∈ Hex.upperDigits := by
  rw [uuidHex, List.mem_append] at hc
  rcases hc with hc | hc
  all_goals exact Hex.mem_upperDigits_of_mem_upperFixed hc

/-- The first digit is that of the first number's top four bits, of which the top two are set. -/
theorem head?_uuidHex (rng : UuidRng) (source : String) :
    ∃ d, 12 ≤ d ∧ d < 16 ∧ (uuidHex rng source).head? = some (Hex.upperDigit d) := by
  refine ⟨((0b1100 : UInt64) <<< 60 ||| (rng source).1).toNat / 16 ^ 15 % 16, ?_, Nat.mod_lt _ (by omega), rfl⟩
  rw [toNat_uuidPart1]
  have hlow : (rng source).1.toNat % 2 ^ 62 < 2 ^ 62 := Nat.mod_lt _ (Nat.two_pow_pos 62)
  omega

/-- The digits determine both numbers, but for the first one's top two bits. -/
theorem uuidHex_eq_uuidHex_iff {rng : UuidRng} {s₁ s₂ : String} :
    uuidHex rng s₁ = uuidHex rng s₂ ↔
      (rng s₁).1.toNat % 2 ^ 62 = (rng s₂).1.toNat % 2 ^ 62 ∧ (rng s₁).2 = (rng s₂).2 := by
  constructor
  · intro h
    obtain ⟨h₁, h₂⟩ := List.append_inj h (by simp)
    have hfull : ∀ x : UInt64, x.toNat % 16 ^ 16 = x.toNat := fun x =>
      Nat.mod_eq_of_lt (by simpa using x.toNat_lt)
    have hpart1 := Hex.mod_eq_of_upperFixed_eq h₁
    have hpart2 := Hex.mod_eq_of_upperFixed_eq h₂
    rw [hfull, hfull, toNat_uuidPart1, toNat_uuidPart1] at hpart1
    rw [hfull, hfull] at hpart2
    exact ⟨by omega, UInt64.toNat_inj.mp hpart2⟩
  · rintro ⟨hpart1, hpart2⟩
    simp only [uuidHex, toNat_uuidPart1, hpart1, hpart2]

/-- A text of ASCII characters is its characters' bytes. -/
theorem utf8Bytes_ofList_of_ascii {l : List Char} (h : ∀ c ∈ l, c.val ≤ 127) :
    utf8Bytes (String.ofList l) = l.map Char.toUInt8 := by
  rw [utf8Bytes, String.toList_ofList]
  induction l with
  | nil => rfl
  | cons c l ih =>
    rw [List.flatMap_cons, List.map_cons, ih fun c' hc' => h c' (List.mem_cons_of_mem c hc'),
      String.utf8EncodeChar_eq_singleton (Char.utf8Size_eq_one_iff.mpr (h c List.mem_cons_self))]
    rfl

theorem utf8Bytes_uuidHex (rng : UuidRng) (source : String) :
    utf8Bytes (String.ofList (uuidHex rng source)) = (uuidHex rng source).map Char.toUInt8 :=
  utf8Bytes_ofList_of_ascii fun _ hc => Hex.val_le_of_mem_upperDigits (mem_upperDigits_of_mem_uuidHex hc)

/-- `generate_uuid`: the digits of `uuidHex`, a digit in front replaced by `A`, cut to 32
characters. The text is never empty, so reading its first byte never panics. -/
def generateUuid (rng : UuidRng) (source : String) : Option TableUuid :=
  let hex := match uuidHex rng source with
    | c :: rest => if c.isDigit then 'A' :: rest else c :: rest
    | [] => []
  BoundedVec.ofList? (utf8Bytes (String.ofList (hex.take 32)))

/-- `generate_uuid` writes the digits as they are: the one in front is a letter, so it is not
replaced, and there are 32, so none is cut. -/
theorem generateUuid_eq (rng : UuidRng) (source : String) :
    generateUuid rng source = BoundedVec.ofList? ((uuidHex rng source).map Char.toUInt8) := by
  obtain ⟨d, hlo, hhi, hhead⟩ := head?_uuidHex rng source
  have hletter : (Hex.upperDigit d).isDigit = false := by
    rw [Hex.isDigit_upperDigit d (List.mem_range.mpr hhi)]
    simp only [decide_eq_false_iff_not, not_lt]
    omega
  have hlen := length_uuidHex rng source
  rw [generateUuid, ← utf8Bytes_uuidHex]
  cases hhex : uuidHex rng source with
  | nil => simp [hhex] at hlen
  | cons c rest =>
    rw [hhex, List.head?_cons, Option.some.injEq] at hhead
    subst hhead
    rw [hhex] at hlen
    simp only [hletter, Bool.false_eq_true, if_false, List.take_of_length_le hlen.le]

/-- The bytes of a UUID `generate_uuid` writes. -/
theorem generateUuid_eq_some (rng : UuidRng) (source : String) :
    ∃ uuid, generateUuid rng source = some uuid ∧ uuid.toList = (uuidHex rng source).map Char.toUInt8 := by
  have hbound : ((uuidHex rng source).map Char.toUInt8).length ≤ IDENT_LENGTH := by
    simp [IDENT_LENGTH]
  exact ⟨⟨_, hbound⟩, by rw [generateUuid_eq]; exact BoundedVec.ofList?_eq_some.mpr rfl, rfl⟩

/-- `generate_table_uuid`: from the block number, the namespace and the name, as `format!` writes
them one after another. -/
def generateTableUuid (rng : UuidRng) (blockNumber : ℕ) (namespace_ name : String) : Option TableUuid :=
  generateUuid rng (toString blockNumber ++ namespace_ ++ name)

/-- `generate_namespace_uuid`. -/
def generateNamespaceUuid (rng : UuidRng) (blockNumber : ℕ) (namespace_ : String) : Option TableUuid :=
  generateUuid rng (toString blockNumber ++ namespace_)

/-- `T::try_from(l).map_err(|_| err)` for a bounded vector. -/
def tryIntoBounded {α : Type} {n : ℕ} (l : List α) (err : DispatchError) : Except DispatchError (BoundedVec α n) :=
  match BoundedVec.ofList? l with
  | some v => .ok v
  | none => .error err

/-! ## Over sqlparser -/

variable {B : Type} (sql : SqlparserEnv B)

/-- `create_statement_to_sqlparser_remove_with`: the statement parsed without its `WITH` clause,
and the clause's bytes. -/
def createStatementToSqlparserRemoveWith (createStatement : CreateStatement) :
    Except CreateStatementParseError (B × Option (List UInt8)) :=
  match fromUtf8 createStatement.toList with
  | none => .error .Utf8
  | some rawSql => do
    let (strippedSql, withOptions) := stripWithClause rawSql
    let builder ← (sql.parseCreateTable strippedSql).mapError fun _ => .Sqlparser
    pure (builder, withOptions.map utf8Bytes)

/-- `generate_column_uuid_list`: each column's name is its UUID. `view` reads the columns of
sqlparser's builder. -/
def generateColumnUuidList (view : B → CreateTableBuilder) (createStatement : CreateStatement) :
    Except DispatchError ColumnUuidList := do
  let builder ← (createStatementToSqlparser sql createStatement).mapError
    fun _ => .Other "Failed to parse CreateStatement"
  let uuids ← (view builder).columns.mapM fun col => do
    let name ← tryIntoBounded (utf8Bytes col.name.value) (.Other "Invalid ByteString")
    let uuid ← tryIntoBounded (utf8Bytes col.name.value) (.Other "Invalid TableUuid")
    pure (⟨name, uuid⟩ : ColumnUuid)
  tryIntoBounded uuids (.Other "Too many columns")

/-- The DDL helpers of `sxt_core::tables` in the place of `ddl`'s: over sqlparser `sql`, whose
builders the pallet reads through `view`, with UUIDs from `rng`, and with the UUID options written
and read under the case mappings `upper` and `lower`. Printing a builder stays `ddl`'s. -/
def DdlEnv.withTextHelpers (ddl : DdlEnv) (view : B → CreateTableBuilder) (rng : UuidRng) (upper lower : CaseMapping) :
    DdlEnv :=
  { ddl.withUuidHelpers sql upper lower with
    parse := fun statement => ((createStatementToSqlparser sql statement).map view).mapError fun _ => ()
    parseRemoveWith := fun statement =>
      ((createStatementToSqlparserRemoveWith sql statement).map fun r => (view r.1, r.2)).mapError fun _ => ()
    generateTableUuid := SxtNode.generateTableUuid rng
    generateColumnUuidList := SxtNode.generateColumnUuidList sql view
    extractSchemaUuid := SxtNode.extractSchemaUuid
    generateNamespaceUuid := SxtNode.generateNamespaceUuid rng }

end SxtNode
