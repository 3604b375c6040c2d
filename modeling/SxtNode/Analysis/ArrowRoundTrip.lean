import SxtNode.Model.ArrowExport
import SxtNode.Analysis.ArrowConversion
import SxtNode.Analysis.ScalarConversion

/-!
# Arrow record batches there and back

`TryFrom<RecordBatch>` accepts a `Decimal256(p, s)` array for any precision `p` up to 75 and any
scale, while `From<OnChainTable> for RecordBatch` sets the precision and scale with
`with_precision_and_scale(..).unwrap()`, which arrow refuses for a scale above the precision.
So a batch with such a decimal field converts to a table that cannot be converted back: the
conversion aborts.

Every other table goes there and back. When its columns are ones `TryFrom<&ArrayRef>` reads (no
unsigned tiny integers, decimals whose precision and scale arrow accepts), its identifiers are
unquoted and in upper case, and a zone's text parses back to the zone, `record_batch_from_data`
returns a batch that `TryFrom<RecordBatch>` reads back as the table (`recordBatchFromData_ok`):
each column is written as an array that reads back as the column, and the field names, being
the identifiers' values, are distinct and kept by uppercasing.
-/

set_option autoImplicit false

namespace SxtNode

/-- A computation that cannot fail with an error aborts whenever it does not succeed. -/
theorem Fallible.panics_of_not_ok {α : Type} {r : Fallible Empty α} (h : ∀ a, r ≠ .ok a) : Fallible.Panics r := by
  cases r with
  | error fault =>
    cases fault with
    | error e => exact e.elim
    | panic msg => exact ⟨msg, rfl⟩
  | ok a => exact absurd rfl (h a)

/-! ## Decimal columns whose scale exceeds their precision -/

namespace OnChainColumn

variable (displayTimeZone : PoSQLTimeZone → String)

/-- A decimal column whose scale exceeds its precision aborts in `with_precision_and_scale`. -/
theorem toArray_decimal75_of_lt {precision : Precision} {scale : Int8} (values : List (BitVec 256))
    (hscale : (precision.value.toNat : ℤ) < scale.toInt) :
    (Decimal75 precision scale values).toArray displayTimeZone =
      .error (.panic "called Result::unwrap() on an Err value") := by
  have hinvalid : ¬Arrow.ValidDecimal 76 precision.value scale := by
    intro hvalid
    exact hvalid.2.2.2 ⟨by omega, hscale⟩
  simp only [toArray, Arrow.decimal256WithPrecisionAndScale, Arrow.withPrecisionAndScale, if_neg hinvalid,
    Fallible.abort]

/-- A `Decimal256(p, s)` array converts to a decimal column of precision `p` and scale `s`. -/
theorem tryFromArray_decimal256 {parseTimeZone : String → Except Unit PoSQLTimeZone} {a : Arrow.ArrayRef}
    {c : OnChainColumn} (h : tryFromArray parseTimeZone a = .ok c) {p : UInt8} {s : Int8}
    (htype : a.dataType = .Decimal256 p s) :
    ∃ precision values, precision.value = p ∧ c = Decimal75 precision s values := by
  obtain ⟨dataType, data, nullCount⟩ := a
  subst htype
  simp only [tryFromArray] at h
  split at h
  · cases h
  · split at h
    · next hp =>
      obtain ⟨precision, hprecision, h⟩ := Fallible.bind_eq_ok.mp h
      have hvalue : precision.value = p := by
        unfold Precision.new at hprecision
        split at hprecision
        · rw [Fallible.expect_some] at hprecision
          cases hprecision
          rfl
        · cases hprecision
      split at h
      · cases h
        exact ⟨precision, _, hvalue, rfl⟩
      · cases h
    · cases h

end OnChainColumn

namespace OnChainTable

variable (displayTimeZone : PoSQLTimeZone → String)

/-- A table aborts in the conversion to a batch when one of its columns does. -/
theorem toRecordBatch_panics_of_mem {t : OnChainTable} {e : Ident × OnChainColumn} (he : e ∈ t.columns)
    (hpanics : Fallible.Panics (e.2.toArray displayTimeZone)) : Fallible.Panics (t.toRecordBatch displayTimeZone) := by
  apply Fallible.panics_of_not_ok
  intro batch hbatch
  obtain ⟨pairs, hpairs, -⟩ := Fallible.bind_eq_ok.mp hbatch
  -- every column was converted on the way
  obtain ⟨pair, -, hpair⟩ := Fallible.exists_mem_of_mapM_eq_ok hpairs he
  obtain ⟨msg, hmsg⟩ := hpanics
  rw [hmsg] at hpair
  cases hpair

/-- A batch that `TryFrom<RecordBatch>` accepts, with a `Decimal256(p, s)` array whose scale
exceeds its precision among names distinct once uppercased, gives a table whose conversion back
to a batch aborts. -/
theorem toRecordBatch_panics_of_scale_gt_precision {upper : CaseMapping}
    {parseTimeZone : String → Except Unit PoSQLTimeZone} {batch : Arrow.RecordBatch} {t : OnChainTable}
    (h : tryFromRecordBatch upper parseTimeZone batch = .ok t)
    (hnd : (batch.fields.map fun f => toUppercase upper f.name).Nodup) {a : Arrow.ArrayRef}
    (ha : a ∈ batch.columns) {p : UInt8} {s : Int8} (htype : a.dataType = .Decimal256 p s)
    (hscale : (p.toNat : ℤ) < s.toInt) :
    Fallible.Panics (t.toRecordBatch displayTimeZone) := by
  obtain ⟨columns, hconv, hcols⟩ := tryFromRecordBatch_of_nodup h hnd
  -- the array's column is among the table's columns
  obtain ⟨c, hc, hac⟩ := hconv.exists_of_mem_left ha
  obtain ⟨precision, values, hp, rfl⟩ :=
    OnChainColumn.tryFromArray_decimal256 (Fallible.mapErr_eq_ok.mp hac) htype
  have hsnd : t.columns.map Prod.snd = columns := by
    rw [hcols, List.map_snd_zip]
    rw [List.length_map, length_fields_eq, hconv.length_eq]
  obtain ⟨e, he, hec⟩ := List.mem_map.mp (hsnd ▸ hc)
  apply toRecordBatch_panics_of_mem displayTimeZone he
  rw [hec, OnChainColumn.toArray_decimal75_of_lt displayTimeZone values (hp ▸ hscale)]
  exact ⟨_, rfl⟩

/-- A batch of one row with the field `A`, a `Decimal256(10, 20)` array holding zero. -/
def wideScaleBatch : Arrow.RecordBatch where
  fields := [⟨"A", .Decimal256 10 20, false⟩]
  columns := [⟨.Decimal256 10 20, .Decimal256 [0], 0⟩]
  rowCount := 1
  types := by decide
  column_len := by decide

theorem wideScaleBatch_toRecordBatch_panics :
    ∃ t, tryFromRecordBatch asciiCaseMapping (fun _ => .error ()) wideScaleBatch = .ok t ∧
      Fallible.Panics (t.toRecordBatch fun _ => "+00:00") := by
  obtain ⟨t, ht⟩ := Fallible.exists_eq_ok_of_isOk
    (by decide : (tryFromRecordBatch asciiCaseMapping (fun _ => .error ()) wideScaleBatch).isOk = true)
  exact ⟨t, ht, toRecordBatch_panics_of_scale_gt_precision _ ht (by decide) List.mem_cons_self rfl (by decide)⟩

end OnChainTable

/-! ## Tables that go there and back -/

/-- Reading slots that all hold a value gives the values. -/
theorem List.mapM_some {α : Type} (l : List α) : l.mapM some = some l := by
  induction l with
  | nil => rfl
  | cons a l ih => simp [List.mapM_cons, ih]

/-- A precision is what `Precision::new` makes of its value. -/
theorem Precision.new_value (precision : Precision) : Precision.new precision.value = some precision := by
  rw [Precision.new, dif_pos precision.valid]

namespace OnChainColumn

/-- A column that `TryFrom<&ArrayRef>` reads back from its array: any but an unsigned tiny int,
which it does not read, with a decimal's precision and scale among those arrow accepts. -/
def Exportable : OnChainColumn → Prop
  | UnsignedTinyInt _ => False
  | Decimal75 precision scale _ => Arrow.ValidDecimal 76 precision.value scale
  | _ => True

instance : DecidablePred Exportable
  | Boolean _ => inferInstanceAs (Decidable True)
  | UnsignedTinyInt _ => inferInstanceAs (Decidable False)
  | TinyInt _ => inferInstanceAs (Decidable True)
  | SmallInt _ => inferInstanceAs (Decidable True)
  | Int _ => inferInstanceAs (Decidable True)
  | BigInt _ => inferInstanceAs (Decidable True)
  | Int128 _ => inferInstanceAs (Decidable True)
  | VarChar _ => inferInstanceAs (Decidable True)
  | Decimal75 precision scale _ => inferInstanceAs (Decidable (Arrow.ValidDecimal 76 precision.value scale))
  | TimestampTZ _ _ _ => inferInstanceAs (Decidable True)
  | VarBinary _ => inferInstanceAs (Decidable True)

variable {displayTimeZone : PoSQLTimeZone → String} {parseTimeZone : String → Except Unit PoSQLTimeZone}

/-- When a zone's text parses back to the zone, an exportable column is written as an array of
its length that reads back as the column. -/
theorem tryFromArray_toArray (hzone : ∀ z, parseTimeZone (displayTimeZone z) = .ok z) {c : OnChainColumn}
    (hc : c.Exportable) :
    ∃ a, c.toArray displayTimeZone = .ok a ∧ a.data.len = c.len ∧ tryFromArray parseTimeZone a = .ok c := by
  cases c with
  | UnsignedTinyInt v => exact hc.elim
  | Int128 v =>
    have hvalid : Arrow.ValidDecimal 38 38 0 := by decide
    have harray : (Int128 v).toArray displayTimeZone = .ok ⟨.Decimal128 38 0, .Decimal128 v, 0⟩ := by
      simp only [toArray, Arrow.decimal128WithPrecisionAndScale, Arrow.withPrecisionAndScale, if_pos hvalid]
    exact ⟨_, harray, rfl, rfl⟩
  | Decimal75 precision scale v =>
    have hvalid : Arrow.ValidDecimal 76 precision.value scale := hc
    have harray : (Decimal75 precision scale v).toArray displayTimeZone =
        .ok ⟨.Decimal256 precision.value scale, .Decimal256 (v.map u256ToArrowI256), 0⟩ := by
      simp only [toArray, Arrow.decimal256WithPrecisionAndScale, Arrow.withPrecisionAndScale, if_pos hvalid]
    have hwords : v.map u256ToArrowI256 = v := List.map_id'' u256ToArrowI256_eq v
    refine ⟨_, harray, by simp [Arrow.ArrayData.len, len], ?_⟩
    -- the precision passes `p ≤ 75` and `Precision::new`, and the words come back as they were
    simp [tryFromArray, precision.valid.2, Precision.new_value, hwords]
  | TimestampTZ unit zone v =>
    -- each unit has its own array type, and the zone's text parses back to the zone
    cases unit <;> refine ⟨_, rfl, rfl, ?_⟩ <;> cases zone <;> unfold tryFromArray <;> simp [hzone]
  | _ =>
    refine ⟨_, rfl, by simp [Arrow.ArrayData.len, len], ?_⟩
    unfold tryFromArray
    simp [List.mapM_map, List.mapM_some]

end OnChainColumn

/-- `try_from_iter` on arrays of one length builds the batch of those arrays, named as given. -/
theorem Arrow.RecordBatch.tryFromIter_eq_ok {pairs : List (String × Arrow.ArrayRef)} (hne : pairs ≠ []) {n : ℕ}
    (hlen : ∀ p ∈ pairs, p.2.data.len = n) :
    ∃ b, Arrow.RecordBatch.tryFromIter pairs = .ok b ∧ b.fields.map Arrow.Field.name = pairs.map Prod.fst ∧
      b.columns = pairs.map Prod.snd := by
  match pairs, hne with
  | first :: rest, _ =>
    have hsame : ∀ a ∈ (first :: rest).map Prod.snd, a.data.len = first.2.data.len := by
      intro a ha
      obtain ⟨p, hp, rfl⟩ := List.mem_map.mp ha
      rw [hlen p hp, hlen first List.mem_cons_self]
    exact ⟨_, by rw [Arrow.RecordBatch.tryFromIter, dif_pos hsame], by simp, rfl⟩

/-- An unquoted identifier is `Ident::new` of its value. -/
theorem Ident.new_value {i : Ident} (h : i.quoteStyle = none) : Ident.new i.value = i := by
  obtain ⟨value, quoteStyle⟩ := i
  cases h
  rfl

namespace OnChainTable

theorem ext_columns {s t : OnChainTable} (h : s.columns = t.columns) : s = t := by
  cases s
  cases t
  simp only at h
  subst h
  rfl

/-- `try_from_iter` builds a table from pairs that all have one length. -/
theorem tryFromIter_isOk {upper : CaseMapping} {l : List (Ident × OnChainColumn)} (hne : l ≠ []) {n : ℕ}
    (hlen : ∀ e ∈ l, e.2.len = n) : ∃ t, tryFromIter upper l = .ok t := by
  match l, hne with
  | first :: rest, _ =>
    have hsame : ∀ e ∈ (first :: rest).map (fun e => (normalizeIdent upper e.1, e.2)), e.2.len = first.2.len := by
      intro e he
      obtain ⟨e', he', rfl⟩ := List.mem_map.mp he
      rw [hlen e' he', hlen first List.mem_cons_self]
    exact ⟨_, by rw [tryFromIter, dif_pos hsame]⟩

/-- A table whose identifiers `try_from_iter` leaves as they are is rebuilt from its own pairs. -/
theorem tryFromIter_columns {upper : CaseMapping} {t : OnChainTable}
    (hfix : ∀ e ∈ t.columns, normalizeIdent upper e.1 = e.1) : tryFromIter upper t.columns = .ok t := by
  obtain ⟨t', ht'⟩ := tryFromIter_isOk t.ne_nil t.same_length
  have hmap : (t.columns.map fun e => (normalizeIdent upper e.1, e.2)) = t.columns := by
    rw [List.map_congr_left (g := id) fun e he => by rw [hfix e he]; rfl, List.map_id]
  have hnd : (t.columns.map fun e => normalizeIdent upper e.1).Nodup := by
    have hkeys := congrArg (List.map Prod.fst) hmap
    rw [List.map_map] at hkeys
    rw [show (fun e : Ident × OnChainColumn => normalizeIdent upper e.1) =
      Prod.fst ∘ fun e => (normalizeIdent upper e.1, e.2) from rfl, hkeys]
    exact t.keys_nodup
  rw [ht', ext_columns ((tryFromIter_ok_of_nodup ht' hnd).trans hmap)]

variable {displayTimeZone : PoSQLTimeZone → String} {parseTimeZone : String → Except Unit PoSQLTimeZone}
  {upper : CaseMapping}

/-- Uppercasing keeps an identifier whose value is in upper case. -/
theorem normalizeIdent_of_toUppercase {i : Ident} (h : toUppercase upper i.value = i.value) :
    normalizeIdent upper i = i := by
  obtain ⟨value, quoteStyle⟩ := i
  simp only [normalizeIdent] at h ⊢
  rw [h]

/-- A table of exportable columns converts to a batch whose fields are named by the identifiers'
values, in order, and whose arrays read back as the columns, when a zone's text parses back to
the zone. -/
theorem toRecordBatch_of_exportable (hzone : ∀ z, parseTimeZone (displayTimeZone z) = .ok z) {t : OnChainTable}
    (hexport : ∀ e ∈ t.columns, e.2.Exportable) :
    ∃ b, t.toRecordBatch displayTimeZone = .ok b ∧ b.fields.map Arrow.Field.name = t.columns.map (fun e => e.1.value) ∧
      List.Forall₂ (fun a e => OnChainColumn.tryFromArray parseTimeZone a = .ok e.2) b.columns t.columns := by
  -- each column is written as an array of the table's length that reads back as the column
  obtain ⟨pairs, hpairs, hrel⟩ := Fallible.exists_mapM_eq_ok
    (f := fun e => (fun a => (e.1.value, a)) <$> e.2.toArray displayTimeZone)
    (P := fun e p => p.1 = e.1.value ∧ p.2.data.len = t.numRows ∧
      OnChainColumn.tryFromArray parseTimeZone p.2 = .ok e.2)
    (l := t.columns) (by
      intro e he
      obtain ⟨a, harray, hlen, hback⟩ := OnChainColumn.tryFromArray_toArray hzone (hexport e he)
      exact ⟨(e.1.value, a), by rw [harray]; rfl, rfl, hlen.trans (t.same_length e he), hback⟩)
  have hne : pairs ≠ [] := by
    rintro rfl
    exact t.ne_nil (List.length_eq_zero_iff.mp hrel.length_eq)
  obtain ⟨b, hb, hfields, hcols⟩ := Arrow.RecordBatch.tryFromIter_eq_ok hne (n := t.numRows)
    fun p hp => by
      obtain ⟨e, -, -, -, hlen, -⟩ := hrel.exists_of_mem_right hp
      exact hlen
  refine ⟨b, by rw [toRecordBatch, hpairs]; exact Fallible.expectOk_eq_ok.mpr hb, ?_, ?_⟩
  · rw [hfields, ← List.forall₂_eq_eq_eq, List.forall₂_map_left_iff, List.forall₂_map_right_iff]
    exact List.Forall₂.flip (hrel.imp fun e p h => h.2.1)
  · rw [hcols, List.forall₂_map_left_iff]
    exact List.Forall₂.flip (hrel.imp fun e p h => h.2.2.2)

/-- A batch whose fields are named by a table's identifiers' values, the identifiers unquoted and
in upper case, and whose arrays read as the table's columns, converts to the table. -/
theorem tryFromRecordBatch_of_forall₂ {t : OnChainTable} {b : Arrow.RecordBatch}
    (hnames : ∀ e ∈ t.columns, e.1.quoteStyle = none ∧ toUppercase upper e.1.value = e.1.value)
    (hfields : b.fields.map Arrow.Field.name = t.columns.map fun e => e.1.value)
    (hread : List.Forall₂ (fun a e => OnChainColumn.tryFromArray parseTimeZone a = .ok e.2) b.columns t.columns) :
    tryFromRecordBatch upper parseTimeZone b = .ok t := by
  have hback : (b.columns.mapM fun a => (OnChainColumn.tryFromArray parseTimeZone a).mapErr ArrowToOnChainTableError.Column) =
      .ok (t.columns.map Prod.snd) := by
    apply Fallible.mapM_eq_ok_of_forall₂
    rw [List.forall₂_map_right_iff]
    exact hread.imp fun a e h => by rw [h]; rfl
  -- the fields' names read as the table's identifiers, which are distinct, so none is dropped
  have hidents : (b.fields.map fun f => Ident.new f.name) = t.columns.map Prod.fst := by
    rw [show (fun f : Arrow.Field => Ident.new f.name) = Ident.new ∘ Arrow.Field.name from rfl, ← List.map_map,
      hfields, List.map_map]
    exact List.map_congr_left fun e he => Ident.new_value (hnames e he).1
  have hzip : (t.columns.map Prod.fst).zip (t.columns.map Prod.snd) = t.columns := (List.zip_of_prod rfl rfl).symm
  rw [tryFromRecordBatch, hback]
  dsimp only [bind, Except.bind]
  rw [hidents, ← IndexMap.keys, IndexMap.dedup_eq_self t.keys_nodup, IndexMap.keys, List.length_map, List.length_map,
    if_neg (not_not.mpr rfl), hzip]
  exact Fallible.expectOk_eq_ok.mpr (tryFromIter_columns fun e he => normalizeIdent_of_toUppercase (hnames e he).2)

/-- A table of exportable columns, whose identifiers are unquoted and in upper case, converts to a
batch that converts back to the table, when a zone's text parses back to the zone. -/
theorem tryFromRecordBatch_toRecordBatch (hzone : ∀ z, parseTimeZone (displayTimeZone z) = .ok z)
    {t : OnChainTable}
    (hnames : ∀ e ∈ t.columns, e.1.quoteStyle = none ∧ toUppercase upper e.1.value = e.1.value)
    (hexport : ∀ e ∈ t.columns, e.2.Exportable) :
    ∃ b, t.toRecordBatch displayTimeZone = .ok b ∧ tryFromRecordBatch upper parseTimeZone b = .ok t := by
  obtain ⟨b, hb, hfields, hread⟩ := toRecordBatch_of_exportable hzone hexport
  exact ⟨b, hb, tryFromRecordBatch_of_forall₂ hnames hfields hread⟩

/-- On the bytes of such a table the loader returns, without aborting, a batch that reads back as
the table. -/
theorem recordBatchFromData_ok (hzone : ∀ z, parseTimeZone (displayTimeZone z) = .ok z)
    {bytes : OnChainTableBytes} {t : OnChainTable} (hdecode : tryFromBytes upper bytes = .ok t)
    (hnames : ∀ e ∈ t.columns, e.1.quoteStyle = none ∧ toUppercase upper e.1.value = e.1.value)
    (hexport : ∀ e ∈ t.columns, e.2.Exportable) :
    ∃ b, recordBatchFromData upper displayTimeZone bytes = .ok b ∧ tryFromRecordBatch upper parseTimeZone b = .ok t := by
  obtain ⟨b, hb, hback⟩ := tryFromRecordBatch_toRecordBatch hzone hnames hexport
  exact ⟨b, by simp [recordBatchFromData, hdecode, hb, Fallible.mapErr], hback⟩

/-! ## A table there and back -/

/-- A zone written as many `Z`s as its offset's bits read as a number, and read back by counting
them. -/
def unaryTimeZone (zone : PoSQLTimeZone) : String := String.ofList (List.replicate zone.offset.toBitVec.toNat 'Z')

def parseUnaryTimeZone (text : String) : Except Unit PoSQLTimeZone := .ok ⟨Int32.ofBitVec (BitVec.ofNat 32 text.length)⟩

theorem parseUnaryTimeZone_unaryTimeZone (zone : PoSQLTimeZone) :
    parseUnaryTimeZone (unaryTimeZone zone) = .ok zone := by
  obtain ⟨⟨⟨bits⟩⟩⟩ := zone
  simp [parseUnaryTimeZone, unaryTimeZone, Int32.toBitVec, Int32.ofBitVec]

/-- One row of a big integer `A` and a timestamp `T` in seconds at the zone of offset zero. -/
def sampleTable : OnChainTable :=
  ofEqualLengths [(Ident.new "A", .BigInt [5]), (Ident.new "T", .TimestampTZ .Second (some ⟨0⟩) [7])]
    (List.cons_ne_nil _ _) 1 (by decide)

theorem sampleTable_loads :
    ∃ b, recordBatchFromData asciiCaseMapping unaryTimeZone ⟨sampleTable⟩ = .ok b ∧
      tryFromRecordBatch asciiCaseMapping parseUnaryTimeZone b = .ok sampleTable :=
  recordBatchFromData_ok parseUnaryTimeZone_unaryTimeZone (by decide) (by decide) (by decide)

end OnChainTable

end SxtNode
