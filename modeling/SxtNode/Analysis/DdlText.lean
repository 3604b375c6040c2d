import SxtNode.Model.DdlText

/-!
# What the DDL text helpers read and write

`extract_schema_uuid` reads back the `SCHEMA_UUID` of options written `key=value` and joined by
commas, with keys and values trimmed (`extractSchemaUuid_written`). `strip_with_clause` cuts a
statement `body WITH (options` at its clause exactly when no `WITH` is among the options; otherwise
it cuts at a `WITH` inside the options, and the text it hands to sqlparser still holds `WITH (`
(`stripWithClause_cut`). Options come to hold a `WITH` through a column's name, such as
`WITHDRAWAL_INDEX`, since `update_uuid_in_create_table_statement` writes an option under each
column's name.

`generate_uuid` always answers, with 32 upper-case hexadecimal digits whose first is a letter
(`generateUuid_format`), and it loses only the two bits it sets
(`generateUuid_eq_generateUuid_iff`).
-/

set_option autoImplicit false

namespace SxtNode

/-! ## `extract_schema_uuid` -/

section SchemaUuid

/-- A `WITH` option as written: `key=value`. -/
def optionText (option : String × String) : String := option.1 ++ "=" ++ option.2

theorem schemaUuidOfOption_optionText {option : String × String} (hkey : '=' ∉ option.1.toList) :
    schemaUuidOfOption (optionText option).toList =
      if eqIgnoreAsciiCase (trim option.1) "SCHEMA_UUID" then some (trim option.2) else none := by
  have htext : (optionText option).toList = option.1.toList ++ '=' :: option.2.toList := by
    simp [optionText, String.toList_append]
  rw [schemaUuidOfOption, htext, splitKeyValue_append hkey]
  simp only [String.ofList_toList, Option.bind_eq_bind, Option.bind_some]

/-- Of options written `key=value`, the first named `SCHEMA_UUID` answers. -/
theorem findSome?_schemaUuidOfOption {options : List (String × String)} (hkeys : ∀ o ∈ options, '=' ∉ o.1.toList) :
    (options.map fun o => (optionText o).toList).findSome? schemaUuidOfOption =
      (options.find? fun o => eqIgnoreAsciiCase (trim o.1) "SCHEMA_UUID").map fun o => trim o.2 := by
  induction options with
  | nil => rfl
  | cons o os ih =>
    rw [List.map_cons, List.findSome?_cons, schemaUuidOfOption_optionText (hkeys o List.mem_cons_self),
      List.find?_cons]
    cases eqIgnoreAsciiCase (trim o.1) "SCHEMA_UUID" with
    | false => exact ih fun o' ho' => hkeys o' (List.mem_cons_of_mem o ho')
    | true => rfl

/-- Reading back the `SCHEMA_UUID` of a statement whose `WITH (` clause holds options written
`key=value` and joined by commas: the trimmed value of the first option whose trimmed key is
`SCHEMA_UUID` in any case. No `WITH (` may come before the clause, no key or value may hold a
comma or a `)`, and no key a `=`. -/
theorem extractSchemaUuid_written {pre rest : String} {options : List (String × String)}
    (hpre : ¬"WITH (".toList <:+: pre.toList)
    (hkeys : ∀ o ∈ options, ',' ∉ o.1.toList ∧ ')' ∉ o.1.toList ∧ '=' ∉ o.1.toList)
    (hvalues : ∀ o ∈ options, ',' ∉ o.2.toList ∧ ')' ∉ o.2.toList) :
    extractSchemaUuid (pre ++ "WITH (" ++ ",".intercalate (options.map optionText) ++ ")" ++ rest) =
      (options.find? fun o => eqIgnoreAsciiCase (trim o.1) "SCHEMA_UUID").map fun o => trim o.2 := by
  have hitem : ∀ o ∈ options, ∀ c, c ∉ o.1.toList → c ∉ o.2.toList → c ≠ '=' → c ∉ (optionText o).toList := by
    intro o _ c h1 h2 h3
    simp [optionText, String.toList_append, h1, h2, h3]
  have htext : (",".intercalate (options.map optionText)).toList =
      [','].intercalate (options.map fun o => (optionText o).toList) := by
    simp only [String.toList_intercalate, List.map_map]
    rfl
  have hclose : ')' ∉ (",".intercalate (options.map optionText)).toList := by
    rw [htext]
    refine List.not_mem_intercalate (by decide) ?_
    simp only [List.mem_map]
    rintro _ ⟨o, ho, rfl⟩
    exact hitem o ho ')' (hkeys o ho).2.1 (hvalues o ho).2 (by decide)
  rw [extractSchemaUuid_append hpre hclose]
  cases options with
  | nil => rfl
  | cons o os =>
    -- no option holds a comma, so cutting at the commas gives the options back
    have hsplit : (",".intercalate ((o :: os).map optionText)).toList.splitOn ',' =
        (o :: os).map fun o => (optionText o).toList := by
      rw [htext]
      refine List.splitOn_intercalate ',' ?_ (by simp)
      simp only [List.mem_map]
      rintro _ ⟨o', ho', rfl⟩
      exact hitem o' ho' ',' (hkeys o' ho').1 (hvalues o' ho').1 (by decide)
    rw [hsplit, findSome?_schemaUuidOfOption fun o' ho' => (hkeys o' ho').2.2]

/-- The second statement of the source's own test: the `SCHEMA_UUID` after another option. -/
theorem northSchema_schemaUuid :
    extractSchemaUuid ("CREATE SCHEMA NORTH " ++ "WITH (" ++
        ",".intercalate ([("ANOTHER_OPT", "XYZ"), (" SCHEMA_UUID", "XYZ789")].map optionText) ++ ")" ++ ";") =
      some "XYZ789" :=
  (extractSchemaUuid_written (by decide) (by decide) (by decide)).trans (by decide)

end SchemaUuid

/-! ## `strip_with_clause` -/

/-- With a `WITH` among the options, `strip_with_clause` cuts inside them, at their last `WITH`:
the text it keeps runs on past the clause's `WITH (`, trimmed at its end. -/
theorem stripWithClause_fst_of_isInfix {body opts : String} (hopts : "WITH".toList <:+: opts.toList) :
    ∃ b w, opts.toList = b ++ w ∧ "WITH".toList <+: w ∧
      (stripWithClause (body ++ "WITH (" ++ opts)).1.toList =
        (body.toList ++ "WITH ".toList) ++ '(' :: b.rdropWhile isWhitespace := by
  obtain ⟨b, w, hcut, hstrip⟩ := @stripWithClause_of_isInfix body opts hopts
  obtain ⟨hopts', hw⟩ := List.splitLast?_eq_some hcut
  refine ⟨b, w, hopts', hw, ?_⟩
  have htext : (body ++ "WITH (" ++ String.ofList b).toList = (body.toList ++ "WITH ".toList) ++ '(' :: b := by
    simp [String.toList_append]
  -- trimming stops at the `(`, which is no whitespace
  rw [hstrip, trimEnd, String.toList_ofList, htext, List.rdropWhile_append_cons (by decide)]

/-- `strip_with_clause` cuts `body WITH (options` at its clause, leaving the body trimmed at its
end, exactly when no `WITH` is among the options. Otherwise it cuts inside the options, at a
`WITH` of theirs, and the text it keeps for sqlparser still holds the clause's `WITH (`. -/
theorem stripWithClause_cut (body opts : String) :
    ((stripWithClause (body ++ "WITH (" ++ opts)).1 = trimEnd body ↔ ¬"WITH".toList <:+: opts.toList) ∧
      ("WITH".toList <:+: opts.toList → ∃ b w, opts.toList = b ++ w ∧ "WITH".toList <+: w ∧
        "WITH (".toList <:+: (stripWithClause (body ++ "WITH (" ++ opts)).1.toList) := by
  refine ⟨⟨fun hcut hopts => ?_, fun hopts => by rw [stripWithClause_of_not_isInfix hopts]⟩, fun hopts => ?_⟩
  · obtain ⟨b, w, -, -, hkept⟩ := @stripWithClause_fst_of_isInfix body opts hopts
    -- the text kept is longer than the trimmed body, so the two differ
    have hlen := congrArg (fun t : String => t.toList.length) hcut
    simp only [hkept, trimEnd, String.toList_ofList, List.length_append, List.length_cons] at hlen
    have hshort := (List.rdropWhile_prefix (p := isWhitespace) (l := body.toList)).length_le
    omega
  · obtain ⟨b, w, hsplit, hw, hkept⟩ := @stripWithClause_fst_of_isInfix body opts hopts
    refine ⟨b, w, hsplit, hw, body.toList, b.rdropWhile isWhitespace, ?_⟩
    rw [hkept]
    simp

/-! ## `generate_uuid` -/

/-- `generate_uuid` always answers, with 32 upper-case hexadecimal digits whose first is a letter
from `C` to `F`. -/
theorem generateUuid_format (rng : UuidRng) (source : String) :
    ∃ (hex : List Char) (uuid : TableUuid), generateUuid rng source = some uuid ∧ uuid.toList = hex.map Char.toUInt8 ∧
      hex.length = 32 ∧ (∀ c ∈ hex, c ∈ Hex.upperDigits) ∧ ∃ c ∈ ['C', 'D', 'E', 'F'], hex.head? = some c := by
  obtain ⟨uuid, hsome, hbytes⟩ := generateUuid_eq_some rng source
  obtain ⟨d, hlo, hhi, hhead⟩ := head?_uuidHex rng source
  refine ⟨uuidHex rng source, uuid, hsome, hbytes, length_uuidHex rng source,
    fun c hc => mem_upperDigits_of_mem_uuidHex hc, Hex.upperDigit d, ?_, hhead⟩
  -- the top digit is one of twelve to fifteen
  obtain rfl | rfl | rfl | rfl : d = 12 ∨ d = 13 ∨ d = 14 ∨ d = 15 := by omega
  all_goals decide

/-- Two sources get the same UUID exactly when the generator gives them the same second number, and
first numbers that agree below the top two bits, which `generate_uuid` sets. -/
theorem generateUuid_eq_generateUuid_iff (rng : UuidRng) (s₁ s₂ : String) :
    generateUuid rng s₁ = generateUuid rng s₂ ↔
      (rng s₁).1.toNat % 2 ^ 62 = (rng s₂).1.toNat % 2 ^ 62 ∧ (rng s₁).2 = (rng s₂).2 := by
  rw [← uuidHex_eq_uuidHex_iff]
  obtain ⟨u₁, h₁, hbytes₁⟩ := generateUuid_eq_some rng s₁
  obtain ⟨u₂, h₂, hbytes₂⟩ := generateUuid_eq_some rng s₂
  rw [h₁, h₂, Option.some.injEq]
  constructor
  · intro h
    have hbytes := congrArg BoundedVec.toList h
    rw [hbytes₁, hbytes₂, ← utf8Bytes_uuidHex, ← utf8Bytes_uuidHex] at hbytes
    -- the bytes are the text's UTF-8, which reads back to the text
    have htext := congrArg fromUtf8 hbytes
    rw [fromUtf8_utf8Bytes, fromUtf8_utf8Bytes, Option.some.injEq] at htext
    simpa using congrArg String.toList htext
  · intro h
    cases u₁
    cases u₂
    simp only [BoundedVec.mk.injEq] at hbytes₁ hbytes₂ ⊢
    rw [hbytes₁, hbytes₂, h]

end SxtNode
