import SxtNode.Model.Core

/-!
# The SQL syntax the node reads (`sqlparser` ast) and identifier normalisation

The part of sqlparser's ast that table definitions use: identifiers with their quote style,
dotted object names, data types, column options and definitions, and the parsed
`CREATE TABLE`. Identifiers are normalised by Rust's `str::to_uppercase`, which maps each
character by Unicode's uppercase mapping (`char::to_uppercase`, one to three characters);
that table is a parameter `CaseMapping`, and `CaseMapping.AsciiLawful` states what Unicode
fixes for ASCII characters. `TableIdentifier.tryFromObjectName` is
`TryFrom<&ObjectName> for TableIdentifier`.
-/

set_option autoImplicit false

namespace SxtNode

/-- Unicode's uppercase mapping of one character, as `char::to_uppercase` yields it. -/
abbrev CaseMapping := Char → List Char

/-- On ASCII characters the uppercase mapping is ASCII uppercasing. -/
def CaseMapping.AsciiLawful (upper : CaseMapping) : Prop :=
  ∀ c : Char, c.toNat < 128 → upper c = [c.toUpper]

/-- The mapping that uppercases ASCII letters and keeps every other character; it is
Unicode's mapping on ASCII text. -/
def asciiCaseMapping : CaseMapping := fun c => [c.toUpper]

theorem asciiCaseMapping_asciiLawful : asciiCaseMapping.AsciiLawful := fun _ _ => rfl

/-- `str::to_uppercase`. -/
def toUppercase (upper : CaseMapping) (s : String) : String :=
  String.ofList (s.toList.flatMap upper)

/-- `str::to_ascii_uppercase`. -/
def toAsciiUppercase (s : String) : String :=
  String.ofList (s.toList.map Char.toUpper)

/-- A text of ASCII characters is mapped character by character. The side condition is a
boolean test, which the kernel evaluates on a literal. -/
theorem flatMap_of_ascii {f : CaseMapping} {g : Char → Char} (hf : ∀ c : Char, c.toNat < 128 → f c = [g c])
    {s : String} (hs : (s.toList.all fun c => c.toNat < 128) = true) : s.toList.flatMap f = s.toList.map g := by
  rw [← List.flatMap_pure_eq_map]
  refine List.flatMap_congr fun c hc => hf c ?_
  simpa using List.all_eq_true.mp hs c hc

/-- On ASCII text, uppercasing is ASCII uppercasing. -/
theorem toUppercase_of_ascii {upper : CaseMapping} (hupper : upper.AsciiLawful) {s : String}
    (hs : (s.toList.all fun c => c.toNat < 128) = true) : toUppercase upper s = toAsciiUppercase s := by
  rw [toUppercase, toAsciiUppercase, flatMap_of_ascii hupper hs]

/-- `str::as_bytes`: the utf8 encoding. -/
def utf8Bytes (s : String) : List UInt8 :=
  s.toList.flatMap String.utf8EncodeChar

/-- The bytes are those of the string's own UTF-8 encoding. -/
theorem utf8Bytes_eq_toByteArray (s : String) : utf8Bytes s = s.toByteArray.data.toList := by
  have h : s.toByteArray = s.toList.utf8Encode := by
    rw [← String.toByteArray_ofList, String.ofList_toList]
  rw [h, List.utf8Encode]
  simp [utf8Bytes]

/-- `Ident`: a sqlparser identifier and the quote it was written with, if any. -/
structure Ident where
  value : String
  quoteStyle : Option Char
deriving DecidableEq, Repr, Inhabited

/-- `Ident::new`: an unquoted identifier. -/
def Ident.new (value : String) : Ident := ⟨value, none⟩

/-- `ObjectName`: a dotted name. -/
abbrev ObjectName := List Ident

/-- `TableIdentifierConversionError`. -/
inductive TableIdentifierConversionError where
  | NotTwoIdentifiers
  | IdentifierExceedsMaxLength
deriving DecidableEq, Repr

/-- `TryFrom<&ObjectName> for TableIdentifier`: every part, uppercased, must fit in a
`ByteString` (checked part by part, in order), and there must be exactly two parts. -/
def TableIdentifier.tryFromObjectName (upper : CaseMapping) (name : ObjectName) :
    Except TableIdentifierConversionError TableIdentifier := do
  let parts ← name.mapM fun ident =>
    match (BoundedVec.ofList? (utf8Bytes (toUppercase upper ident.value)) : Option ByteString) with
    | some b => .ok b
    | none => .error .IdentifierExceedsMaxLength
  match parts with
  | [namespace_, name] => .ok ⟨name, namespace_⟩
  | _ => .error .NotTwoIdentifiers

/-- A two-part name converts exactly when each part, uppercased, fits in `IDENT_LENGTH` bytes. -/
theorem tryFromObjectName_isOk_iff (upper : CaseMapping) (ns n : Ident) :
    (TableIdentifier.tryFromObjectName upper [ns, n]).isOk ↔
      (utf8Bytes (toUppercase upper ns.value)).length ≤ IDENT_LENGTH ∧
      (utf8Bytes (toUppercase upper n.value)).length ≤ IDENT_LENGTH := by
  -- the two parts are converted in order, and each may be too long
  by_cases h₁ : (utf8Bytes (toUppercase upper ns.value)).length ≤ IDENT_LENGTH <;>
  by_cases h₂ : (utf8Bytes (toUppercase upper n.value)).length ≤ IDENT_LENGTH <;>
  simp [TableIdentifier.tryFromObjectName, BoundedVec.ofList?, h₁, h₂, Except.isOk, Except.toBool] <;>
  rfl

/-- `ExactNumberInfo`. -/
inductive ExactNumberInfo where
  | None
  | Precision (p : ℕ)
  | PrecisionAndScale (p s : ℕ)
deriving DecidableEq, Repr

/-- `TimezoneInfo`. -/
inductive TimezoneInfo where
  | None
  | WithTimeZone
  | WithoutTimeZone
  | Tz
deriving DecidableEq, Repr

/-- `DataType`: the sqlparser data types the conversion to proof-of-sql tells apart; every
other type is `Other`. -/
inductive DataType where
  | Boolean
  | TinyInt (width : Option ℕ)
  | SmallInt (width : Option ℕ)
  | Int (width : Option ℕ)
  | Integer (width : Option ℕ)
  | BigInt (width : Option ℕ)
  | Varchar (length : Option ℕ)
  | Decimal (info : ExactNumberInfo)
  | Timestamp (precision : Option ℕ) (tz : TimezoneInfo)
  | Binary (length : Option ℕ)
  | Other (name : String)
deriving DecidableEq, Repr

/-- `ColumnOption`: the options the validator tells apart; every other one is `Other`. -/
inductive ColumnOption where
  | NotNull
  | Comment (text : String)
  | Other (name : String)
deriving DecidableEq, Repr

/-- `ColumnDef`. -/
structure ColumnDef where
  name : Ident
  dataType : DataType
  options : List ColumnOption
deriving DecidableEq, Repr

/-- `CreateTableBuilder`: a parsed `CREATE TABLE`, with the parts the node reads. -/
structure CreateTableBuilder where
  name : ObjectName
  columns : List ColumnDef
deriving DecidableEq, Repr

end SxtNode
