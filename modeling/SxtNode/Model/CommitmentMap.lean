import SxtNode.Lib.StorageMap
import SxtNode.Model.Core

/-!
# Commitment schemes and commitment maps (`proof-of-sql-commitment-map`)

A commitment map holds, per key, at most one commitment of each scheme. Its operations are
written once over a `CommitmentMapImplementor` (the four per-scheme primitives) exactly as
the crate's blanket `impl CommitmentMap for M` writes them. The runtime's storage handler is
the implementor over the `CommitmentStorageMap` double map, and `MemoryCommitmentMap` the one
over a map per scheme. A value that depends
on the scheme (`GenericOverCommitment`) is a family `T : CommitmentScheme → Type`.
-/

set_option autoImplicit false

namespace SxtNode

/-- `CommitmentScheme`. -/
inductive CommitmentScheme where
  | HyperKzg
  | DynamicDory
deriving DecidableEq, Repr, Inhabited

/-- `CommitmentSchemeFlags`; its default selects no scheme. -/
structure CommitmentSchemeFlags where
  hyperKzg : Bool
  dynamicDory : Bool
deriving DecidableEq, Repr, Inhabited

namespace CommitmentSchemeFlags

/-- `CommitmentSchemeFlags::all`. -/
def all : CommitmentSchemeFlags := ⟨true, true⟩

/-- `IntoIterator for CommitmentSchemeFlags`: the selected schemes, hyper-kzg first. -/
def schemes (f : CommitmentSchemeFlags) : List CommitmentScheme :=
  (if f.hyperKzg then [.HyperKzg] else []) ++ (if f.dynamicDory then [.DynamicDory] else [])

/-- `FromIterator<CommitmentScheme> for CommitmentSchemeFlags`. -/
def ofSchemes (l : List CommitmentScheme) : CommitmentSchemeFlags :=
  l.foldl (fun acc s => match s with
    | .HyperKzg => { acc with hyperKzg := true }
    | .DynamicDory => { acc with dynamicDory := true }) default

/-- Whether the flags select scheme `s`. -/
def has (f : CommitmentSchemeFlags) : CommitmentScheme → Bool
  | .HyperKzg => f.hyperKzg
  | .DynamicDory => f.dynamicDory

@[simp] theorem schemes_all : all.schemes = [.HyperKzg, .DynamicDory] := rfl

@[simp] theorem default_eq : (default : CommitmentSchemeFlags) = ⟨false, false⟩ := rfl

/-- Flags are equal when they select the same schemes. -/
theorem eq_iff_has {f g : CommitmentSchemeFlags} : f = g ↔ ∀ s, f.has s = g.has s := by
  constructor
  · rintro rfl s
    rfl
  · intro h
    obtain ⟨fh, fd⟩ := f
    obtain ⟨gh, gd⟩ := g
    have hh := h .HyperKzg
    have hd := h .DynamicDory
    simp only [has] at hh hd
    rw [hh, hd]

@[simp] theorem has_default (s : CommitmentScheme) : (default : CommitmentSchemeFlags).has s = false := by
  cases s <;> rfl

end CommitmentSchemeFlags

/-- `AnyCommitmentScheme<T>`: a value of one scheme, tagged with it. -/
inductive AnyCommitmentScheme (T : CommitmentScheme → Type) where
  | HyperKzg (x : T .HyperKzg)
  | DynamicDory (x : T .DynamicDory)

namespace AnyCommitmentScheme

variable {T : CommitmentScheme → Type}

/-- `to_scheme`. -/
def toScheme : AnyCommitmentScheme T → CommitmentScheme
  | .HyperKzg _ => .HyperKzg
  | .DynamicDory _ => .DynamicDory

/-- `transpose_option`. -/
def transposeOption : AnyCommitmentScheme (fun s => Option (T s)) → Option (AnyCommitmentScheme T)
  | .HyperKzg (some x) => some (.HyperKzg x)
  | .DynamicDory (some x) => some (.DynamicDory x)
  | _ => none

@[simp] theorem transposeOption_hyperKzg_some (x : T .HyperKzg) :
    transposeOption (.HyperKzg (some x) : AnyCommitmentScheme (fun s => Option (T s))) = some (.HyperKzg x) := rfl

@[simp] theorem transposeOption_hyperKzg_none :
    transposeOption (.HyperKzg none : AnyCommitmentScheme (fun s => Option (T s))) = none := rfl

@[simp] theorem transposeOption_dynamicDory_some (x : T .DynamicDory) :
    transposeOption (.DynamicDory (some x) : AnyCommitmentScheme (fun s => Option (T s))) = some (.DynamicDory x) :=
  rfl

@[simp] theorem transposeOption_dynamicDory_none :
    transposeOption (.DynamicDory none : AnyCommitmentScheme (fun s => Option (T s))) = none := rfl

/-- `unwrap` for a family that does not depend on the scheme. -/
def unwrap {α : Type} : AnyCommitmentScheme (fun _ => α) → α
  | .HyperKzg x => x
  | .DynamicDory x => x

end AnyCommitmentScheme

/-- `CommitmentScheme::into_any_concrete`: a value that does not depend on the scheme, tagged
with `s`. -/
def CommitmentScheme.intoAnyConcrete {α : Type} (s : CommitmentScheme) (value : α) :
    AnyCommitmentScheme (fun _ => α) :=
  match s with
  | .HyperKzg => .HyperKzg value
  | .DynamicDory => .DynamicDory value

namespace CommitmentScheme

variable {α : Type}

@[simp] theorem toScheme_intoAnyConcrete (s : CommitmentScheme) (value : α) :
    (s.intoAnyConcrete value).toScheme = s := by
  cases s <;> rfl

@[simp] theorem unwrap_intoAnyConcrete (s : CommitmentScheme) (value : α) :
    (s.intoAnyConcrete value).unwrap = value := by
  cases s <;> rfl

end CommitmentScheme

/-- `PerCommitmentScheme<T>`: one value per scheme. -/
structure PerCommitmentScheme (T : CommitmentScheme → Type) where
  hyperKzg : T .HyperKzg
  dynamicDory : T .DynamicDory

namespace PerCommitmentScheme

variable {T : CommitmentScheme → Type}

/-- The value of scheme `s`. -/
def get (p : PerCommitmentScheme T) : (s : CommitmentScheme) → T s
  | .HyperKzg => p.hyperKzg
  | .DynamicDory => p.dynamicDory

/-- `Default for PerCommitmentScheme<OptionType<T>>`: no scheme present. -/
def none : PerCommitmentScheme (fun s => Option (T s)) := ⟨Option.none, Option.none⟩

/-- `to_flags`: the schemes present. -/
def toFlags (p : PerCommitmentScheme (fun s => Option (T s))) : CommitmentSchemeFlags :=
  ⟨p.hyperKzg.isSome, p.dynamicDory.isSome⟩

/-- `IntoIterator for PerCommitmentScheme<T>`: both values, tagged, hyper-kzg first. -/
def toAnyList (p : PerCommitmentScheme T) : List (AnyCommitmentScheme T) :=
  [.HyperKzg p.hyperKzg, .DynamicDory p.dynamicDory]

/-- `into_flat_iter`: the present values, tagged. -/
def intoFlatIter (p : PerCommitmentScheme (fun s => Option (T s))) : List (AnyCommitmentScheme T) :=
  p.toAnyList.filterMap AnyCommitmentScheme.transposeOption

/-- `FromIterator<AnyCommitmentScheme<G>> for PerCommitmentScheme<OptionType<G>>`: a later
value of a scheme replaces an earlier one. -/
def ofAnyList (l : List (AnyCommitmentScheme T)) : PerCommitmentScheme (fun s => Option (T s)) :=
  l.foldl (fun acc a => match a with
    | .HyperKzg x => { acc with hyperKzg := some x }
    | .DynamicDory x => { acc with dynamicDory := some x }) none

/-- `select`: keeps the values of the selected schemes. -/
def select (p : PerCommitmentScheme T) (f : CommitmentSchemeFlags) :
    PerCommitmentScheme (fun s => Option (T s)) :=
  ⟨if f.hyperKzg then some p.hyperKzg else Option.none,
    if f.dynamicDory then some p.dynamicDory else Option.none⟩

@[simp] theorem toFlags_none : (none : PerCommitmentScheme (fun s => Option (T s))).toFlags = ⟨false, false⟩ :=
  rfl

@[simp] theorem toFlags_select (p : PerCommitmentScheme T) (f : CommitmentSchemeFlags) :
    (p.select f).toFlags = f := by
  cases f with
  | mk h d => cases h <;> cases d <;> rfl

end PerCommitmentScheme

/-- `KeyExistsError`. -/
structure KeyExistsError (K : Type) where
  key : K

/-- `CommitmentSchemesMismatchError`. -/
structure CommitmentSchemesMismatchError where
  originalSchemes : CommitmentSchemeFlags
  newSchemes : CommitmentSchemeFlags

/-- `CommitmentMapImplementor`: the per-scheme primitives a commitment map is built from. -/
structure CommitmentMapImplementor (M K : Type) (V : CommitmentScheme → Type) where
  hasKeyAndScheme : M → K → CommitmentScheme → Bool
  getCommitmentForAnyScheme : M → K → CommitmentScheme → AnyCommitmentScheme (fun s => Option (V s))
  setCommitmentForAnyScheme : M → K → AnyCommitmentScheme V → M
  deleteCommitmentForAnyScheme : M → K → CommitmentScheme → M

namespace CommitmentMapImplementor

variable {M K : Type} {V : CommitmentScheme → Type} (I : CommitmentMapImplementor M K V)

/-- `schemes_for_key`. -/
def schemesForKey (m : M) (k : K) : CommitmentSchemeFlags :=
  CommitmentSchemeFlags.ofSchemes (CommitmentSchemeFlags.all.schemes.filter (I.hasKeyAndScheme m k))

/-- `has_key`. -/
def hasKey (m : M) (k : K) : Bool := decide ((I.schemesForKey m k).schemes.length > 0)

/-- `get_commitments`. -/
def getCommitments (m : M) (k : K) : PerCommitmentScheme (fun s => Option (V s)) :=
  PerCommitmentScheme.ofAnyList
    (CommitmentSchemeFlags.all.schemes.filterMap fun s => (I.getCommitmentForAnyScheme m k s).transposeOption)

/-- Writes the present commitments of `c` under `k`, one scheme after the other. -/
def setAll (m : M) (k : K) (c : PerCommitmentScheme (fun s => Option (V s))) : M :=
  c.intoFlatIter.foldl (fun m a => I.setCommitmentForAnyScheme m k a) m

/-- `update_commitments`: fails, changing nothing, unless the new commitments have exactly the
key's schemes. -/
def updateCommitments (m : M) (k : K) (c : PerCommitmentScheme (fun s => Option (V s))) :
    Except CommitmentSchemesMismatchError M :=
  let originalSchemes := I.schemesForKey m k
  let newSchemes := c.toFlags
  if originalSchemes ≠ newSchemes then .error ⟨originalSchemes, newSchemes⟩
  else .ok (I.setAll m k c)

/-- `create_commitments`: fails, changing nothing, when the key has a commitment already. -/
def createCommitments (m : M) (k : K) (c : PerCommitmentScheme (fun s => Option (V s))) :
    Except (KeyExistsError K) M :=
  if I.hasKey m k then .error ⟨k⟩ else .ok (I.setAll m k c)

/-- `delete_commitments`. -/
def deleteCommitments (m : M) (k : K) : M :=
  CommitmentSchemeFlags.all.schemes.foldl (fun m s => I.deleteCommitmentForAnyScheme m k s) m

end CommitmentMapImplementor

/-- `MemoryCommitmentMap`: one map per scheme, in memory. -/
structure MemoryCommitmentMap (K : Type) (V : CommitmentScheme → Type) where
  hyperKzgMap : StorageMap K (V .HyperKzg)
  doryMap : StorageMap K (V .DynamicDory)

/-- The implementor of `MemoryCommitmentMap`: each primitive goes to the map of its scheme. -/
def memoryCommitmentMap (K : Type) [DecidableEq K] (V : CommitmentScheme → Type) :
    CommitmentMapImplementor (MemoryCommitmentMap K V) K V where
  hasKeyAndScheme m k s := match s with
    | .HyperKzg => decide (k ∈ m.hyperKzgMap)
    | .DynamicDory => decide (k ∈ m.doryMap)
  getCommitmentForAnyScheme m k s := match s with
    | .HyperKzg => .HyperKzg (m.hyperKzgMap.lookup k)
    | .DynamicDory => .DynamicDory (m.doryMap.lookup k)
  setCommitmentForAnyScheme m k c := match c with
    | .HyperKzg x => { m with hyperKzgMap := m.hyperKzgMap.insert k x }
    | .DynamicDory x => { m with doryMap := m.doryMap.insert k x }
  deleteCommitmentForAnyScheme m k s := match s with
    | .HyperKzg => { m with hyperKzgMap := m.hyperKzgMap.erase k }
    | .DynamicDory => { m with doryMap := m.doryMap.erase k }

/-- `TABLE_COMMITMENT_MAX_LENGTH`. -/
def TABLE_COMMITMENT_MAX_LENGTH : ℕ := 45328

/-- `TableCommitmentBytes`: a bincode-serialized table commitment, as a caller supplies it. -/
abbrev TableCommitmentBytes := BoundedVec UInt8 TABLE_COMMITMENT_MAX_LENGTH

/-- `CommitmentStorageMap`: the commitments pallet's double map, holding commitments of type
`C` (the model keeps the commitment a stored encoding decodes to). -/
abbrev CommitmentStorageMap (C : Type) := StorageMap (TableIdentifier × CommitmentScheme) C

/-- `CommitmentStorageMapHandler`: the commitment map over the storage double map. -/
def commitmentStorageMapHandler (C : Type) :
    CommitmentMapImplementor (CommitmentStorageMap C) TableIdentifier (fun _ => C) where
  hasKeyAndScheme m k s := decide ((k, s) ∈ m)
  getCommitmentForAnyScheme m k s := match s with
    | .HyperKzg => .HyperKzg (m.lookup (k, s))
    | .DynamicDory => .DynamicDory (m.lookup (k, s))
  setCommitmentForAnyScheme m k c := m.insert (k, c.toScheme) c.unwrap
  deleteCommitmentForAnyScheme m k s := m.erase (k, s)

namespace CommitmentStorageMap

variable {C : Type}

theorem mem_foldl_setCommitment {m : CommitmentStorageMap C} {k : TableIdentifier}
    {l : List (AnyCommitmentScheme (fun _ => C))} {key : TableIdentifier × CommitmentScheme} :
    key ∈ l.foldl (fun m a => (commitmentStorageMapHandler C).setCommitmentForAnyScheme m k a) m ↔
      key ∈ m ∨ ∃ a ∈ l, key = (k, a.toScheme) := by
  induction l generalizing m with
  | nil => simp
  | cons a l ih =>
    rw [List.foldl_cons, ih]
    simp only [commitmentStorageMapHandler, AList.mem_insert, List.mem_cons, exists_eq_or_imp]
    tauto

/-- Writing a key's commitments to the storage adds the key under exactly the schemes present. -/
theorem mem_setAll {m : CommitmentStorageMap C} {k : TableIdentifier} {c : PerCommitmentScheme (fun _ => Option C)}
    {key : TableIdentifier × CommitmentScheme} :
    key ∈ (commitmentStorageMapHandler C).setAll m k c ↔ key ∈ m ∨ (key.1 = k ∧ c.toFlags.has key.2 = true) := by
  rw [CommitmentMapImplementor.setAll, mem_foldl_setCommitment]
  obtain ⟨h, d⟩ := c
  obtain ⟨k', x⟩ := key
  cases h <;> cases d <;> cases x <;>
    simp [PerCommitmentScheme.intoFlatIter, PerCommitmentScheme.toAnyList, AnyCommitmentScheme.toScheme,
      PerCommitmentScheme.toFlags, CommitmentSchemeFlags.has]

/-- A successful creation adds the key under exactly the schemes present. -/
theorem mem_createCommitments {m m' : CommitmentStorageMap C} {k : TableIdentifier}
    {c : PerCommitmentScheme (fun _ => Option C)} (h : (commitmentStorageMapHandler C).createCommitments m k c = .ok m')
    {key : TableIdentifier × CommitmentScheme} :
    key ∈ m' ↔ key ∈ m ∨ (key.1 = k ∧ c.toFlags.has key.2 = true) := by
  unfold CommitmentMapImplementor.createCommitments at h
  split at h
  · cases h
  · cases h
    exact mem_setAll

end CommitmentStorageMap

end SxtNode
