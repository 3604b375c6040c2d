import SxtNode.Lib.IndexMap
import SxtNode.Model.Sql

/-!
# On-chain tables (`on-chain-table`)

`OnChainColumn` is one typed column and `OnChainTable` an insertion-ordered map from
identifiers to columns. The table carries the guarantees `OnChainTable::try_from_iter`
establishes as fields: distinct identifiers, at least one column, and columns of one length;
so `num_rows`, which reads the first column, is total. `tryFromIter` uppercases every
identifier's value (keeping its quote style) and then collects the pairs by insertion, so two
identifiers that differ only in case collapse into one column.
-/

set_option autoImplicit false

namespace SxtNode

/-- proof-of-sql's `Precision`: a decimal precision in `1..=75`. -/
structure Precision where
  value : UInt8
  valid : 1 ≤ value.toNat ∧ value.toNat ≤ 75
deriving DecidableEq

/-- `Precision::new`: accepts exactly `1..=75`. -/
def Precision.new (p : UInt8) : Option Precision :=
  if h : 1 ≤ p.toNat ∧ p.toNat ≤ 75 then some ⟨p, h⟩ else none

/-- `PoSQLTimeUnit`. -/
inductive PoSQLTimeUnit where
  | Second
  | Millisecond
  | Microsecond
  | Nanosecond
deriving DecidableEq, Repr

/-- `PoSQLTimeZone`: an offset from UTC in seconds. -/
structure PoSQLTimeZone where
  offset : Int32
deriving DecidableEq

/-- `PoSQLTimeZone::utc`. -/
def PoSQLTimeZone.utc : PoSQLTimeZone := ⟨0⟩

/-- proof-of-sql's `ColumnType`. -/
inductive ColumnType where
  | Boolean
  | Uint8
  | TinyInt
  | SmallInt
  | Int
  | BigInt
  | Int128
  | VarChar
  | VarBinary
  | Decimal75 (precision : Precision) (scale : Int8)
  | TimestampTZ (unit : PoSQLTimeUnit) (zone : PoSQLTimeZone)
  | Scalar
deriving DecidableEq

/-- `OnChainColumn`. Decimal entries are 256-bit words read as two's complement; 128-bit
integers are 128-bit words. -/
inductive OnChainColumn where
  | Boolean (values : List Bool)
  | UnsignedTinyInt (values : List UInt8)
  | TinyInt (values : List Int8)
  | SmallInt (values : List Int16)
  | Int (values : List Int32)
  | BigInt (values : List Int64)
  | Int128 (values : List (BitVec 128))
  | VarChar (values : List String)
  | Decimal75 (precision : Precision) (scale : Int8) (values : List (BitVec 256))
  | TimestampTZ (unit : PoSQLTimeUnit) (zone : Option PoSQLTimeZone) (values : List Int64)
  | VarBinary (values : List (List UInt8))
deriving DecidableEq

namespace OnChainColumn

/-- `OnChainColumn::len`. -/
def len : OnChainColumn → ℕ
  | Boolean v => v.length
  | UnsignedTinyInt v => v.length
  | TinyInt v => v.length
  | SmallInt v => v.length
  | Int v => v.length
  | BigInt v => v.length
  | Int128 v => v.length
  | VarChar v => v.length
  | Decimal75 _ _ v => v.length
  | TimestampTZ _ _ v => v.length
  | VarBinary v => v.length

/-- `OnChainColumn::empty_with_type`; the `Scalar` type, which the code leaves
`unimplemented!`, aborts. -/
def emptyWithType : ColumnType → Fallible Empty OnChainColumn
  | .Boolean => .ok (Boolean [])
  | .VarChar => .ok (VarChar [])
  | .VarBinary => .ok (VarBinary [])
  | .Uint8 => .ok (UnsignedTinyInt [])
  | .TinyInt => .ok (TinyInt [])
  | .SmallInt => .ok (SmallInt [])
  | .Int => .ok (Int [])
  | .BigInt => .ok (BigInt [])
  | .Int128 => .ok (Int128 [])
  | .Decimal75 p s => .ok (Decimal75 p s [])
  | .TimestampTZ u z => .ok (TimestampTZ u (some z) [])
  | .Scalar => .error (.panic "not implemented")

theorem len_emptyWithType {ty : ColumnType} {c : OnChainColumn} (h : emptyWithType ty = .ok c) : c.len = 0 := by
  cases ty <;> cases h <;> rfl

end OnChainColumn

/-- `OnChainTableError`. -/
inductive OnChainTableError where
  | NoColumns
  | ColumnLengthMismatch
deriving DecidableEq, Repr

/-- `OnChainTable`: identifier-column pairs with distinct identifiers, at least one column,
and every column as long as the first. -/
structure OnChainTable where
  columns : List (Ident × OnChainColumn)
  keys_nodup : (IndexMap.keys columns).Nodup
  ne_nil : columns ≠ []
  same_length : ∀ e ∈ columns, e.2.len = (columns.head ne_nil).2.len

namespace OnChainTable

instance : DecidableEq OnChainTable := fun s t =>
  decidable_of_iff (s.columns = t.columns) ⟨fun h => by cases s; cases t; simp only at h; subst h; rfl,
    fun h => h ▸ rfl⟩

/-- `OnChainTable::num_columns`. -/
def numColumns (t : OnChainTable) : ℕ := t.columns.length

/-- `OnChainTable::num_rows`: the length of the first column. -/
def numRows (t : OnChainTable) : ℕ := (t.columns.head t.ne_nil).2.len

/-- The uppercasing of an identifier's value in `try_from_iter`; the quote style stays. -/
def normalizeIdent (upper : CaseMapping) (i : Ident) : Ident :=
  { i with value := toUppercase upper i.value }

/-- Builds a table from pairs whose columns all have length `length`: the pairs are collected by
insertion, the way `collect::<IndexMap<_, _>>` does. -/
def ofEqualLengths (l : List (Ident × OnChainColumn)) (hne : l ≠ []) (length : ℕ)
    (hlen : ∀ e ∈ l, e.2.len = length) : OnChainTable where
  columns := IndexMap.fromList l
  keys_nodup := IndexMap.nodup_keys_fromList l
  ne_nil := IndexMap.fromList_ne_nil hne
  same_length := by
    intro e he
    have hhead := List.head_mem (IndexMap.fromList_ne_nil hne)
    rw [hlen e (IndexMap.mem_of_mem_fromList he), hlen _ (IndexMap.mem_of_mem_fromList hhead)]

theorem numRows_ofEqualLengths (l : List (Ident × OnChainColumn)) (hne : l ≠ []) (length : ℕ)
    (hlen : ∀ e ∈ l, e.2.len = length) : (ofEqualLengths l hne length hlen).numRows = length :=
  hlen _ (IndexMap.mem_of_mem_fromList (List.head_mem _))

/-- `OnChainTable::try_from_iter`: fails on no pairs, and on a column whose length differs from
the first column's; otherwise uppercases the identifiers and collects the pairs. -/
def tryFromIter (upper : CaseMapping) (l : List (Ident × OnChainColumn)) :
    Except OnChainTableError OnChainTable :=
  match l with
  | [] => .error .NoColumns
  | first :: rest =>
    let normalized := (first :: rest).map fun e => (normalizeIdent upper e.1, e.2)
    if hlen : ∀ e ∈ normalized, e.2.len = first.2.len then
      .ok (ofEqualLengths normalized (by simp [normalized]) first.2.len hlen)
    else .error .ColumnLengthMismatch

/-- A table built by `try_from_iter` holds the pairs with their identifiers uppercased,
collected by insertion. -/
theorem tryFromIter_ok {upper : CaseMapping} {l : List (Ident × OnChainColumn)} {t : OnChainTable}
    (h : tryFromIter upper l = .ok t) :
    t.columns = IndexMap.fromList (l.map fun e => (normalizeIdent upper e.1, e.2)) := by
  unfold tryFromIter at h
  split at h
  · cases h
  · dsimp only at h
    split at h
    · cases h
      rfl
    · cases h

/-- Without such a merge, `try_from_iter` keeps every pair. -/
theorem tryFromIter_ok_of_nodup {upper : CaseMapping} {l : List (Ident × OnChainColumn)} {t : OnChainTable}
    (h : tryFromIter upper l = .ok t) (hnd : (l.map fun e => normalizeIdent upper e.1).Nodup) :
    t.columns = l.map fun e => (normalizeIdent upper e.1, e.2) := by
  rw [tryFromIter_ok h, IndexMap.fromList_eq_self]
  rw [IndexMap.keys, List.map_map]
  exact hnd

/-- Every pair a table is built from has the table's number of rows. -/
theorem len_of_tryFromIter_ok {upper : CaseMapping} {l : List (Ident × OnChainColumn)} {t : OnChainTable}
    (h : tryFromIter upper l = .ok t) : ∀ e ∈ l, e.2.len = t.numRows := by
  unfold tryFromIter at h
  split at h
  · cases h
  · dsimp only at h
    split at h
    · rename_i hlen
      cases h
      intro e he
      rw [numRows_ofEqualLengths]
      exact hlen (normalizeIdent upper e.1, e.2) (List.mem_map.mpr ⟨e, he, rfl⟩)
    · cases h

/-- The value of an identifier (`IndexMap::get`). -/
def get? (t : OnChainTable) (i : Ident) : Option OnChainColumn := IndexMap.get? t.columns i

/-- The identifier of the last pair holds that pair's column. -/
theorem get?_tryFromIter_append_singleton {upper : CaseMapping} {l : List (Ident × OnChainColumn)} {i : Ident}
    {c : OnChainColumn} {t : OnChainTable} (h : tryFromIter upper (l ++ [(i, c)]) = .ok t) :
    t.get? (normalizeIdent upper i) = some c := by
  rw [get?, tryFromIter_ok h, List.map_append, List.map_singleton]
  exact IndexMap.get?_fromList_append_singleton _ _ _

/-- `OnChainTable::max_block_number`: the greatest entry of the `BLOCK_NUMBER` big-integer
column, if there is one. -/
def maxBlockNumber (t : OnChainTable) : Option Int64 :=
  match t.get? (Ident.new "BLOCK_NUMBER") with
  | some (.BigInt values) => values.max?
  | _ => none

/-- The lookup the typed column getters share: the column of the uppercased name, if it has the
type `select` takes. -/
def getByColumn {α : Type} (upper : CaseMapping) (select : OnChainColumn → Option α) (t : OnChainTable)
    (columnName : String) : Option α :=
  (t.get? (Ident.new (toUppercase upper columnName))).bind select

/-- `OnChainTable::get_decimal_by_column`. -/
def getDecimalByColumn (upper : CaseMapping) (t : OnChainTable) (columnName : String) : Option (List (BitVec 256)) :=
  getByColumn upper (fun | .Decimal75 _ _ values => some values | _ => none) t columnName

/-- `OnChainTable::get_bytes_by_column`. -/
def getBytesByColumn (upper : CaseMapping) (t : OnChainTable) (columnName : String) : Option (List (List UInt8)) :=
  getByColumn upper (fun | .VarBinary values => some values | _ => none) t columnName

/-- `OnChainTable::get_varchars_by_column`. -/
def getVarcharsByColumn (upper : CaseMapping) (t : OnChainTable) (columnName : String) : Option (List String) :=
  getByColumn upper (fun | .VarChar values => some values | _ => none) t columnName

/-- The two parts `with_column_order` chains: the entries named by `order`, each taken out of
the map in turn (a name not in the map is skipped), and the entries left over. -/
def orderColumns : List Ident → List (Ident × OnChainColumn) →
    List (Ident × OnChainColumn) × List (Ident × OnChainColumn)
  | [], m => ([], m)
  | i :: order, m =>
    match IndexMap.shiftRemoveEntry m i with
    | (some e, m') => ((e :: (orderColumns order m').1), (orderColumns order m').2)
    | (none, m') => orderColumns order m'

theorem mem_of_mem_orderColumns (order : List Ident) (m : List (Ident × OnChainColumn))
    {e : Ident × OnChainColumn} (he : e ∈ (orderColumns order m).1 ++ (orderColumns order m).2) :
    e ∈ m := by
  induction order generalizing m with
  | nil => simpa [orderColumns] using he
  | cons i order ih =>
    unfold orderColumns at he
    split at he
    · rename_i e' m' hs
      have hm' : ∀ x ∈ m', x ∈ m := fun x hx =>
        IndexMap.mem_of_mem_shiftRemoveEntry_snd (by rw [hs]; exact hx)
      rcases List.mem_cons.mp (List.cons_append ▸ he) with rfl | h
      · exact IndexMap.mem_of_shiftRemoveEntry_fst (by rw [hs])
      · exact hm' e (ih m' h)
    · rename_i m' hs
      exact IndexMap.mem_of_mem_shiftRemoveEntry_snd (by rw [hs]; exact ih m' he)

theorem orderColumns_ne_nil (order : List Ident) {m : List (Ident × OnChainColumn)} (hm : m ≠ []) :
    (orderColumns order m).1 ++ (orderColumns order m).2 ≠ [] := by
  induction order generalizing m with
  | nil => simpa [orderColumns] using hm
  | cons i order ih =>
    unfold orderColumns
    split
    · simp
    · rename_i m' hs
      have hne := IndexMap.shiftRemoveEntry_ne_nil i hm
      rw [hs] at hne
      exact ih (hne.resolve_left (by simp))

section OrderColumns

variable {m : List (Ident × OnChainColumn)}

/-- With distinct identifiers, the two parts hold the map's entries, each once. -/
theorem orderColumns_perm (order : List Ident) (hnd : (IndexMap.keys m).Nodup) :
    ((orderColumns order m).1 ++ (orderColumns order m).2).Perm m := by
  induction order generalizing m with
  | nil => simp [orderColumns]
  | cons i order ih =>
    by_cases hi : i ∈ IndexMap.keys m
    · -- the entry of `i` goes first, and the rest is ordered from the map without it
      obtain ⟨e, he, rfl⟩ := List.mem_map.mp hi
      have hnd' : (IndexMap.keys (m.filter fun x => x.1 ≠ e.1)).Nodup := by
        rw [IndexMap.keys_filter_ne]
        exact hnd.filter _
      simp only [orderColumns, IndexMap.shiftRemoveEntry_of_mem hnd he, List.cons_append]
      exact ((ih hnd').cons e).trans (IndexMap.perm_cons_filter_ne hnd he).symm
    · simp only [orderColumns, IndexMap.shiftRemoveEntry_of_not_mem hi]
      exact ih hnd

/-- When `order` names every identifier of the map, nothing is left over. -/
theorem orderColumns_snd_eq_nil (order : List Ident) (hnd : (IndexMap.keys m).Nodup)
    (hnamed : ∀ k ∈ IndexMap.keys m, k ∈ order) : (orderColumns order m).2 = [] := by
  induction order generalizing m with
  | nil =>
    have hkeys : IndexMap.keys m = [] := List.eq_nil_iff_forall_not_mem.mpr fun k hk => by
      simpa using hnamed k hk
    simpa [orderColumns, IndexMap.keys] using hkeys
  | cons i order ih =>
    by_cases hi : i ∈ IndexMap.keys m
    · obtain ⟨e, he, rfl⟩ := List.mem_map.mp hi
      simp only [orderColumns, IndexMap.shiftRemoveEntry_of_mem hnd he]
      refine ih (by rw [IndexMap.keys_filter_ne]; exact hnd.filter _) fun k hk => ?_
      -- a key left in the map is not `e.1`, so the rest of `order` names it
      rw [IndexMap.keys_filter_ne, List.mem_filter] at hk
      obtain ⟨hk, hne⟩ := hk
      exact (List.mem_cons.mp (hnamed k hk)).resolve_left (by simpa using hne)
    · simp only [orderColumns, IndexMap.shiftRemoveEntry_of_not_mem hi]
      refine ih hnd fun k hk => (List.mem_cons.mp (hnamed k hk)).resolve_left ?_
      rintro rfl
      exact hi hk

/-- When every identifier of a repetition-free `order` is in the map, the entries taken out are
those of `order`, in its order. -/
theorem keys_orderColumns_fst {order : List Ident} (hord : order.Nodup) (hnd : (IndexMap.keys m).Nodup)
    (hpresent : ∀ i ∈ order, i ∈ IndexMap.keys m) : IndexMap.keys (orderColumns order m).1 = order := by
  induction order generalizing m with
  | nil => rfl
  | cons i order ih =>
    obtain ⟨e, he, hei⟩ := List.mem_map.mp (hpresent i List.mem_cons_self)
    subst hei
    rw [List.nodup_cons] at hord
    simp only [orderColumns, IndexMap.shiftRemoveEntry_of_mem hnd he]
    rw [IndexMap.keys, List.map_cons, ← IndexMap.keys]
    refine congrArg _ (ih hord.2 (by rw [IndexMap.keys_filter_ne]; exact hnd.filter _) fun j hj => ?_)
    -- `order` does not repeat `e.1`, so its other identifiers stay in the map
    rw [IndexMap.keys_filter_ne, List.mem_filter]
    have hne : j ≠ e.1 := fun h => hord.1 (h ▸ hj)
    exact ⟨hpresent j (List.mem_cons_of_mem _ hj), by simpa using hne⟩

end OrderColumns

/-- `OnChainTable::with_column_order`: the columns named by `order` first, in that order, then
the others in their order; identifiers compare with their quote style. -/
def withColumnOrder (t : OnChainTable) (order : List Ident) : OnChainTable :=
  ofEqualLengths ((orderColumns order t.columns).1 ++ (orderColumns order t.columns).2)
    (orderColumns_ne_nil order t.ne_nil) t.numRows
    (fun e he => t.same_length e (mem_of_mem_orderColumns order t.columns he))

@[simp] theorem numRows_withColumnOrder (t : OnChainTable) (order : List Ident) :
    (t.withColumnOrder order).numRows = t.numRows :=
  numRows_ofEqualLengths _ _ _ _

/-- Reordering holds the table's entries, each once, and collecting them changes nothing. -/
theorem columns_withColumnOrder (t : OnChainTable) (order : List Ident) :
    (t.withColumnOrder order).columns = (orderColumns order t.columns).1 ++ (orderColumns order t.columns).2 := by
  have hnd : (IndexMap.keys ((orderColumns order t.columns).1 ++ (orderColumns order t.columns).2)).Nodup :=
    ((orderColumns_perm order t.keys_nodup).map Prod.fst).nodup_iff.mpr t.keys_nodup
  exact IndexMap.fromList_eq_self hnd

/-- Reordering neither drops nor adds a column. -/
theorem withColumnOrder_perm (t : OnChainTable) (order : List Ident) :
    (t.withColumnOrder order).columns.Perm t.columns := by
  rw [columns_withColumnOrder]
  exact orderColumns_perm order t.keys_nodup

/-- Reordering by an order of exactly the table's identifiers lists them in that order. -/
theorem keys_withColumnOrder {t : OnChainTable} {order : List Ident} (h : (IndexMap.keys t.columns).Perm order) :
    IndexMap.keys (t.withColumnOrder order).columns = order := by
  have hord : order.Nodup := h.nodup_iff.mp t.keys_nodup
  rw [columns_withColumnOrder, orderColumns_snd_eq_nil order t.keys_nodup fun k hk => h.subset hk,
    List.append_nil]
  exact keys_orderColumns_fst hord t.keys_nodup fun i hi => h.symm.subset hi

end OnChainTable

end SxtNode
