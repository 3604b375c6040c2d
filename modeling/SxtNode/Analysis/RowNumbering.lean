import Mathlib.Algebra.GroupWithZero.Nat
import SxtNode.Model.CommitmentSql

/-!
# Row numbers across inserts

`process_insert` reads a table's row count from the common range end of its commitments and
numbers the insert's rows from there, in the `META_ROW_NUMBER` column it adds. Over a run of
inserts, each fed the commitments the previous one returned and the first fed the empty
commitments of `process_create_table`, the numbers handed out are `0, 1, 2, …` in order, and
every commitment's range ends at the number of rows inserted so far.

Two facts of proof-of-sql carry this: committing to columns at an offset ends the range at the
offset plus their length, and appending columns extends the range end by their length
(`FromColumnsEndsRange`, `AppendExtendsRange`; the metadata commitments have both). The `i64`
casts of the row numbers need no assumption of their own: a range whose end wrapped is shorter
than the insert, so the call aborts, and the total of a successful run stays below `2 ^ 63`.
The step lemma `processInsert_rowNumbers` carries the common range end over one insert, and
`processInserts_rowNumbers` over a run of them.
-/

set_option autoImplicit false

namespace SxtNode

namespace PosqlEnv

variable {C : Type} (env : PosqlEnv C)

/-- `try_from_columns_with_offset` ends the range at the offset plus the columns' length. -/
def FromColumnsEndsRange : Prop :=
  ∀ s cols offset c n, env.tryFromColumnsWithOffset s cols offset = .ok c → cols ≠ [] →
    (∀ e ∈ cols, e.2.column.len = n) → env.rangeEnd c = offset + n

/-- `try_append_rows` extends the range end by the appended columns' length. -/
def AppendExtendsRange : Prop :=
  ∀ c cols c' n, env.tryAppendRows c cols = .ok c' → cols ≠ [] →
    (∀ e ∈ cols, e.2.column.len = n) → env.rangeEnd c' = env.rangeEnd c + n

end PosqlEnv

namespace MetaCommitment

/-- Columns of one length `n` have `n` rows. -/
theorem numRowsOf_of_len {cols : List (Ident × CommittableColumn)} {n : ℕ} (hne : cols ≠ [])
    (hlen : ∀ e ∈ cols, e.2.column.len = n) : numRowsOf cols = .ok n := by
  obtain ⟨e, rest, rfl⟩ := List.exists_cons_of_ne_nil hne
  have he : e.2.column.len = n := hlen e List.mem_cons_self
  have hall : ((rest.map fun e => e.2.column.len).all fun x => x = n) = true := by
    simp only [List.all_eq_true, decide_eq_true_eq, List.mem_map]
    rintro x ⟨e', he', rfl⟩
    exact hlen e' (List.mem_cons_of_mem _ he')
  simp only [numRowsOf, List.map_cons, allEqualValue, he, hall, ↓reduceIte]

theorem metadata_fromColumnsEndsRange (inScalarBounds : CommitmentScheme → BitVec 256 → Bool)
    (encodedLen : MetaCommitment → ℕ) (decode : CommitmentScheme → List UInt8 → Except Unit MetaCommitment) :
    (PosqlEnv.metadata inScalarBounds encodedLen decode).FromColumnsEndsRange := by
  intro s cols offset c n h hne hlen
  change tryFromColumnsWithOffset cols offset = .ok c at h
  rw [tryFromColumnsWithOffset, numRowsOf_of_len hne hlen] at h
  dsimp only at h
  split at h
  · cases h
    rfl
  · cases h

theorem metadata_appendExtendsRange (inScalarBounds : CommitmentScheme → BitVec 256 → Bool)
    (encodedLen : MetaCommitment → ℕ) (decode : CommitmentScheme → List UInt8 → Except Unit MetaCommitment) :
    (PosqlEnv.metadata inScalarBounds encodedLen decode).AppendExtendsRange := by
  intro c cols c' n h hne hlen
  change tryAppendRows c cols = .ok c' at h
  rw [tryAppendRows, numRowsOf_of_len hne hlen] at h
  dsimp only [Except.bind] at h
  -- the identifiers must be distinct and the metadata the commitment's
  split at h
  · split at h
    · cases h
      rfl
    · cases h
  · cases h

end MetaCommitment

section Numbering

variable {C : Type} (env : PosqlEnv C)

/-- The row numbers of an insert: its `META_ROW_NUMBER` column, under the identifier
`try_from_iter` gave it. -/
def rowNumbersOf (upper : CaseMapping) (t : OnChainTable) : Option (List Int64) :=
  match t.get? (OnChainTable.normalizeIdent upper (Ident.new ROW_NUMBER_COLUMN_NAME)) with
  | some (.BigInt values) => some values
  | _ => none

/-- Every present commitment's range ends at `n`. -/
def RangesEndAt (cs : Commitments C) (n : ℕ) : Prop :=
  ∀ s c, cs.get s = some c → env.rangeEnd c = n

/-- The commitments of a created table cover no rows. -/
theorem rangesEndAt_processCreateTable (hfrom : env.FromColumnsEndsRange) {upper : CaseMapping}
    {table : CreateTableBuilder} {schemes : CommitmentSchemeFlags} {md : CreateTableAndCommitmentMetadata}
    {cs : Commitments C} (h : processCreateTable env upper table schemes = .ok (md, cs)) :
    RangesEndAt env cs 0 := by
  obtain ⟨emptyTable, hrows, hcommit⟩ := processCreateTable_commitments env h
  intro s c hs
  obtain ⟨cols, hcols, hc⟩ := onChainTableToTableCommitment_ok env (hcommit s c hs)
  obtain ⟨hne, hlen⟩ := OnChainTable.iterCommittable_ok hcols
  rw [hfrom s cols 0 c emptyTable.numRows hc hne hlen, hrows]

/-- One insert into commitments whose ranges end at `n < 2 ^ 63`: its rows are numbered
`n, n + 1, …`, the numbers do not wrap, and every range then ends after its rows. -/
theorem processInsert_rowNumbers (happend : env.AppendExtendsRange) {upper : CaseMapping}
    {d : OnChainTable} {cs cs' : Commitments C} {m : InsertAndCommitmentMetadata} {n : ℕ}
    (hn : n < 2 ^ 63) (hends : RangesEndAt env cs n) (h : processInsert env upper d cs = .ok (m, cs')) :
    ∃ rows : List Int64, rowNumbersOf upper m.insertWithMetaColumns = some rows ∧
      rows.map Int64.toInt = (List.range d.numRows).map (fun k => ((n + k : ℕ) : ℤ)) ∧
      n + d.numRows < 2 ^ 63 ∧ RangesEndAt env cs' (n + d.numRows) := by
  obtain ⟨rowCount, order, hrow, -, htrav, hmeta⟩ := processInsert_ok env h
  -- the row count read back from the commitments is their common range end
  have hcount : n = rowCount := by
    obtain ⟨c, hc, hcn⟩ := List.mem_map.mp (allEqualValue_ok hrow).1
    obtain ⟨s, hs⟩ := Commitments.exists_get_of_mem hc
    rw [← hcn, hends s c hs]
  subst hcount
  obtain ⟨hget, hlen⟩ := onChainTableWithRowNumberColumn_ok hmeta
  rw [OnChainTable.numRows_withColumnOrder] at hget hlen
  have hlt : n + d.numRows < 2 ^ 63 := Int64.lt_of_length_rangeList_ofNat hn hlen
  have hrows : rowNumbersOf upper m.insertWithMetaColumns =
      some (Int64.rangeList (Int64.ofNat n) (Int64.ofNat n + Int64.ofNat d.numRows)) := by
    rw [rowNumbersOf, hget]
  refine ⟨_, hrows, Int64.map_toInt_rangeList_ofNat hlt, hlt, ?_⟩
  -- each commitment had the reordered insert, as long as the insert, appended
  intro s c' hs
  obtain ⟨c, hc, happ⟩ := Commitments.traverse_get htrav hs
  obtain ⟨cols, hcols, hcols'⟩ := appendOnChainTableToTableCommitment_ok env happ
  obtain ⟨hne, hlen'⟩ := OnChainTable.iterCommittable_ok hcols
  rw [happend c cols c' _ hcols' hne hlen', hends s c hc, OnChainTable.numRows_withColumnOrder]

/-- A run of inserts into commitments whose ranges end at `n < 2 ^ 63` numbers its rows
`n, n + 1, …` in order, insert after insert, and leaves every range ending after the last. -/
theorem processInserts_rowNumbers (happend : env.AppendExtendsRange) {upper : CaseMapping}
    {ds : List OnChainTable} :
    ∀ {cs cs' : Commitments C} {ms : List InsertAndCommitmentMetadata} {n : ℕ}, n < 2 ^ 63 →
      RangesEndAt env cs n → Fallible.mapState (processInsert env upper) ds cs = .ok (ms, cs') →
      ∃ rows : List (List Int64), ms.map (fun m => rowNumbersOf upper m.insertWithMetaColumns) = rows.map some ∧
        rows.flatten.map Int64.toInt =
          (List.range (ds.map OnChainTable.numRows).sum).map (fun k => ((n + k : ℕ) : ℤ)) ∧
        n + (ds.map OnChainTable.numRows).sum < 2 ^ 63 ∧
        RangesEndAt env cs' (n + (ds.map OnChainTable.numRows).sum) := by
  induction ds with
  | nil =>
    intro cs cs' ms n hn hends h
    cases h
    exact ⟨[], rfl, rfl, hn, hends⟩
  | cons d ds ih =>
    intro cs cs' ms n hn hends h
    obtain ⟨m, cs₁, ms', h₁, h₂, rfl⟩ := Fallible.mapState_cons_eq_ok h
    obtain ⟨r, hr, hrval, hlt, hends₁⟩ := processInsert_rowNumbers env happend hn hends h₁
    obtain ⟨rows, hrows, hval, hlt', hends'⟩ := ih hlt hends₁ h₂
    have hsum : ((d :: ds).map OnChainTable.numRows).sum =
        d.numRows + (ds.map OnChainTable.numRows).sum := by
      rw [List.map_cons, List.sum_cons]
    refine ⟨r :: rows, by rw [List.map_cons, hr, hrows, List.map_cons], ?_, by omega, ?_⟩
    · -- this insert's numbers, then the rest's from where they stop
      rw [List.flatten_cons, List.map_append, hrval, hval, hsum, List.range_add, List.map_append,
        List.map_map]
      congr 1
      apply List.map_congr_left
      intro k _
      simp only [Function.comp_apply, Nat.add_assoc]
    · rwa [hsum, ← Nat.add_assoc]

/-- Inserts into a created table, each fed the commitments the previous one returned, are
numbered `0, 1, …` up to their total row count less one across the returned tables, the total
stays below `2 ^ 63`, and every scheme's commitment then ends its range at the total. -/
theorem inserts_numbered_from_zero (hfrom : env.FromColumnsEndsRange) (happend : env.AppendExtendsRange)
    {upper : CaseMapping} {table : CreateTableBuilder} {schemes : CommitmentSchemeFlags}
    {md : CreateTableAndCommitmentMetadata} {cs₀ cs : Commitments C} {ds : List OnChainTable}
    {ms : List InsertAndCommitmentMetadata}
    (hcreate : processCreateTable env upper table schemes = .ok (md, cs₀))
    (hrun : Fallible.mapState (processInsert env upper) ds cs₀ = .ok (ms, cs)) :
    ∃ rows : List (List Int64), ms.map (fun m => rowNumbersOf upper m.insertWithMetaColumns) = rows.map some ∧
      rows.flatten.map Int64.toInt = (List.range (ds.map OnChainTable.numRows).sum).map (fun k : ℕ => (k : ℤ)) ∧
      (ds.map OnChainTable.numRows).sum < 2 ^ 63 ∧
      ∀ s c, cs.get s = some c → env.rangeEnd c = (ds.map OnChainTable.numRows).sum := by
  obtain ⟨rows, hrows, hval, hlt, hends⟩ :=
    processInserts_rowNumbers env happend (Nat.two_pow_pos 63) (rangesEndAt_processCreateTable env hfrom hcreate) hrun
  simp only [Nat.zero_add] at hval hlt hends
  exact ⟨rows, hrows, hval, hlt, hends⟩

/-! ## Two inserts into a new table -/

/-- Metadata commitments with every scalar in bounds. -/
def metaPosqlEnv : PosqlEnv MetaCommitment :=
  PosqlEnv.metadata (fun _ _ => true) (fun _ => 0) (fun _ _ => .error ())

/-- `CREATE TABLE NS.T (A BIGINT NOT NULL)`. -/
def createTableA : CreateTableBuilder :=
  ⟨[Ident.new "NS", Ident.new "T"], [⟨Ident.new "A", .BigInt none, [.NotNull]⟩]⟩

/-- The empty commitments of both schemes to the column `A`. -/
def createdCommitmentsA : Commitments MetaCommitment :=
  ⟨some ⟨[(Ident.new "A", .BigInt)], 0, 0⟩, some ⟨[(Ident.new "A", .BigInt)], 0, 0⟩⟩

/-- An insert of the big integers `values` into the column `A`. -/
def insertOfA (values : List Int64) : OnChainTable :=
  OnChainTable.ofEqualLengths [(Ident.new "A", .BigInt values)] (List.cons_ne_nil _ _) values.length
    (fun e he => by rw [List.mem_singleton.mp he]; rfl)

/-- Inserts of two rows and of one row into the new table are numbered `0, 1, 2`, and both
schemes' commitments end at row 3. -/
theorem twoInserts_numbered_from_zero :
    processCreateTable metaPosqlEnv asciiCaseMapping createTableA .all =
      .ok (⟨createTableWithRowNumberColumn createTableA⟩, createdCommitmentsA) ∧
    ∃ ms cs, Fallible.mapState (processInsert metaPosqlEnv asciiCaseMapping)
        [insertOfA [5, 7], insertOfA [9]] createdCommitmentsA = .ok (ms, cs) ∧
      ∃ rows : List (List Int64), ms.map (fun m => rowNumbersOf asciiCaseMapping m.insertWithMetaColumns) = rows.map some ∧
        rows.flatten.map Int64.toInt = (List.range 3).map (fun k : ℕ => (k : ℤ)) ∧ 3 < 2 ^ 63 ∧
        ∀ s c, cs.get s = some c → metaPosqlEnv.rangeEnd c = 3 := by
  have hcreate : processCreateTable metaPosqlEnv asciiCaseMapping createTableA .all =
      .ok (⟨createTableWithRowNumberColumn createTableA⟩, createdCommitmentsA) := rfl
  obtain ⟨⟨ms, cs⟩, hrun⟩ := Fallible.exists_eq_ok_of_isOk
    (show (Fallible.mapState (processInsert metaPosqlEnv asciiCaseMapping)
      [insertOfA [5, 7], insertOfA [9]] createdCommitmentsA).isOk = true by decide)
  exact ⟨hcreate, ms, cs, hrun, inserts_numbered_from_zero metaPosqlEnv
    (MetaCommitment.metadata_fromColumnsEndsRange _ _ _) (MetaCommitment.metadata_appendExtendsRange _ _ _)
    hcreate hrun⟩

end Numbering

end SxtNode
