import SxtNode.Lib.StorageKey
import SxtNode.Lib.Transition
import SxtNode.Model.CommitmentMap

/-!
# The attestation tree (`attestation_tree`)

The attestation tree commits to two storage items: the commitments pallet's
`CommitmentStorageMap`, and the balances pallet's `Locks` with the staking contract's info
appended to each value. A `PrefixFoliate` describes a storage item: its prefix, its
(hasher, key) pairs, the codec of its values, and how a leaf encodes a key tuple and a value.
`decode_storage_key_and_value` reads a raw storage entry back into a key tuple and a value,
`encode_key_value_leaf` makes the entry's leaf, and `attestation_tree_from_prefixes` builds a
Merkle tree over the leaves of both items; `prove_leaf_pair` finds the leaf of a typed entry in
the tree and returns its proof.

The SCALE codecs of keys and values, the `blake2_128` digest, `keccak256` and the tree of
`eth_merkle_tree` are third-party code and parameters here. The codec of `CommitmentScheme`, the
variant's index as one byte, and `hex::encode` are written out.
-/

set_option autoImplicit false

namespace SxtNode

namespace AttestationTree

/-- `HashAndKeyTuple`: the (reversible hasher, key) pairs of a storage item, indexed by the
type of its key tuple, which nests the keys in pairs ending in `Unit`. -/
inductive HashAndKeyTuple : Type → Type 1 where
  | nil : HashAndKeyTuple Unit
  | cons {K KS : Type} (hasher : ReversibleHasher) (key : Codec K) (rest : HashAndKeyTuple KS) :
      HashAndKeyTuple (K × KS)

namespace HashAndKeyTuple

/-- The SCALE codec of a key tuple: its keys one after another. -/
def keyTupleCodec : {KS : Type} → HashAndKeyTuple KS → Codec KS
  | _, .nil => Codec.unit
  | _, .cons _ key rest => key.prod rest.keyTupleCodec

/-- `decode_key_tuple_from_storage_key_suffix`: for each pair in turn, strips the hasher's digest
and decodes the key; returns the key tuple and the bytes after it. -/
def decodeKeyTupleFromStorageKeySuffix : {KS : Type} → HashAndKeyTuple KS → List UInt8 →
    Except Unit (KS × List UInt8)
  | _, .nil, bytes => .ok ((), bytes)
  | _, .cons hasher key rest, bytes => do
    let (k, bytes) ← key.decode (hasher.reverse bytes)
    let (ks, bytes) ← rest.decodeKeyTupleFromStorageKeySuffix bytes
    pure ((k, ks), bytes)

/-- `storage_key_suffix_from_key_tuple`: the hash of each key's encoding, in order. -/
def storageKeySuffixFromKeyTuple : {KS : Type} → HashAndKeyTuple KS → KS → List UInt8
  | _, .nil, _ => []
  | _, .cons hasher key rest, (k, ks) => hasher.hash (key.encode k) ++ rest.storageKeySuffixFromKeyTuple ks

/-- Every key codec reads back what it writes. -/
def Lawful : {KS : Type} → HashAndKeyTuple KS → Prop
  | _, .nil => True
  | _, .cons _ key rest => key.Lawful ∧ rest.Lawful

variable {KS : Type}

/-- A key tuple's storage key suffix decodes to the key tuple, leaving the bytes after it. -/
theorem decode_storageKeySuffix (hk : HashAndKeyTuple KS) (hl : hk.Lawful) (ks : KS) (rest : List UInt8) :
    hk.decodeKeyTupleFromStorageKeySuffix (hk.storageKeySuffixFromKeyTuple ks ++ rest) = .ok (ks, rest) := by
  induction hk with
  | nil => rfl
  | cons hasher key tail ih =>
    obtain ⟨hkey, htail⟩ := hl
    obtain ⟨k, ks⟩ := ks
    -- strip this key's digest, decode it, and go on with the rest of the suffix
    simp only [storageKeySuffixFromKeyTuple, decodeKeyTupleFromStorageKeySuffix, List.append_assoc,
      hasher.reverse_hash_append, hkey k, bind, Except.bind, ih htail ks]
    rfl

theorem keyTupleCodec_lawful (hk : HashAndKeyTuple KS) (hl : hk.Lawful) : hk.keyTupleCodec.Lawful := by
  induction hk with
  | nil => exact Codec.lawful_unit
  | cons hasher key tail ih => exact hl.1.prod (ih hl.2)

end HashAndKeyTuple

/-- `PrefixFoliate`: a storage item's prefix, its (hasher, key) pairs and its value's codec,
and how a leaf encodes a key tuple and a value, by their SCALE encodings unless the item says
otherwise. -/
structure PrefixFoliate (KS V : Type) where
  /-- `StorageInstance::prefix_hash()`. -/
  prefixHash : List UInt8
  hashAndKeyTuple : HashAndKeyTuple KS
  value : Codec V
  leafEncodeKey : KS → List UInt8 := hashAndKeyTuple.keyTupleCodec.encode
  leafEncodeValue : V → List UInt8 := value.encode

/-- `DecodeStorageError`; the codec's own error is not kept. -/
inductive DecodeStorageError where
  | UnexpectedStoragePrefix
  | UnexpectedKeyBytes
  | UnexpectedValueBytes
  | Decode
deriving DecidableEq, Repr

section Foliate

variable {KS V : Type} (pf : PrefixFoliate KS V)

/-- `decode_storage_key_and_value`: strips the prefix, decodes the key tuple from the rest of
the key and the value from the value bytes, and rejects bytes left over after either. -/
def decodeStorageKeyAndValue (keyBytes valueBytes : List UInt8) : Except DecodeStorageError (KS × V) :=
  match stripPrefix pf.prefixHash keyBytes with
  | none => .error .UnexpectedStoragePrefix
  | some keyBytes => do
    let (keyTuple, keyBytes) ←
      (pf.hashAndKeyTuple.decodeKeyTupleFromStorageKeySuffix keyBytes).mapError fun _ => .Decode
    if !keyBytes.isEmpty then throw .UnexpectedKeyBytes
    let (value, valueBytes) ← (pf.value.decode valueBytes).mapError fun _ => .Decode
    if !valueBytes.isEmpty then throw .UnexpectedValueBytes
    pure (keyTuple, value)

/-- `encode_key_value_leaf`: the leaf encodings of the key tuple and of the value. -/
def encodeKeyValueLeaf (keyTuple : KS) (value : V) : List UInt8 :=
  pf.leafEncodeKey keyTuple ++ pf.leafEncodeValue value

/-- `encode_prefix_leaves`: the leaf of each raw entry, failing at the first that does not
decode. -/
def encodePrefixLeaves (keyValuePairs : List (List UInt8 × List UInt8)) :
    Except DecodeStorageError (List (List UInt8)) :=
  keyValuePairs.mapM fun e =>
    (decodeStorageKeyAndValue pf e.1 e.2).map fun kv => encodeKeyValueLeaf pf kv.1 kv.2

/-- `storage_key_for_prefix_key_tuple`: the prefix, then the key tuple's suffix. -/
def storageKeyForPrefixKeyTuple (keyTuple : KS) : List UInt8 :=
  pf.prefixHash ++ pf.hashAndKeyTuple.storageKeySuffixFromKeyTuple keyTuple

/-- The storage key of a key tuple and the encoding of a value decode back to them. -/
theorem decodeStorageKeyAndValue_storageKey (hk : pf.hashAndKeyTuple.Lawful) (hv : pf.value.Lawful)
    (keyTuple : KS) (value : V) :
    decodeStorageKeyAndValue pf (storageKeyForPrefixKeyTuple pf keyTuple) (pf.value.encode value) =
      .ok (keyTuple, value) := by
  have hkey := pf.hashAndKeyTuple.decode_storageKeySuffix hk keyTuple []
  have hval := hv value []
  rw [List.append_nil] at hkey hval
  rw [decodeStorageKeyAndValue, storageKeyForPrefixKeyTuple, stripPrefix_append]
  simp only [hkey, hval, Except.mapError, bind, Except.bind, List.isEmpty_nil]
  rfl

end Foliate

/-! ## The two storage items -/

/-- The SCALE codec of `CommitmentScheme`: the variant's index, as one byte. -/
def commitmentSchemeCodec : Codec CommitmentScheme where
  encode
    | .HyperKzg => [0]
    | .DynamicDory => [1]
  decode
    | b :: rest => if b = 0 then .ok (.HyperKzg, rest) else if b = 1 then .ok (.DynamicDory, rest) else .error ()
    | [] => .error ()

theorem commitmentSchemeCodec_lawful : commitmentSchemeCodec.Lawful := by
  intro s rest
  cases s <;> rfl

/-- `pallet_balances::BalanceLock<u128>`, without its `reasons`, which no leaf reads. -/
structure BalanceLock where
  id : Vector UInt8 8
  amount : BitVec 128
deriving DecidableEq

/-- `ContractInfo`: a contract's chain id and address. -/
structure ContractInfo where
  chainId : BitVec 256
  address : Vector UInt8 20
deriving DecidableEq

/-- What the runtime fixes for the two storage items: their prefixes, the `blake2_128` digest
of their `Blake2_128Concat` hashers, and the SCALE codecs of their keys and values. -/
structure StorageConfig (Acc : Type) where
  blake2_128 : List UInt8 → Vector UInt8 16
  commitmentStorageMapPrefix : List UInt8
  locksPrefix : List UInt8
  tableIdentifierCodec : Codec TableIdentifier
  tableCommitmentBytesCodec : Codec TableCommitmentBytes
  accountIdCodec : Codec Acc
  locksCodec : Codec (List BalanceLock)
  contractInfoCodec : Codec ContractInfo

/-- `Blake2_128Concat`: the `blake2_128` digest, then the data. -/
def blake2_128Concat (blake2_128 : List UInt8 → Vector UInt8 16) : ReversibleHasher :=
  ReversibleHasher.concat 16 blake2_128

/-- `ASCII_PERIOD`. -/
def ASCII_PERIOD : UInt8 := 46

/-- `CommitmentMapPrefixFoliate::leaf_encode_key`: the identifier written `namespace.name`,
prefixed by its length as one byte, then the scheme's encoding. -/
def commitmentMapLeafEncodeKey : TableIdentifier × CommitmentScheme × Unit → List UInt8
  | (t, scheme, ()) =>
    let tableIdentifierUtf8 := t.namespace_.toList ++ [ASCII_PERIOD] ++ t.name.toList
    -- `len() as u8`, which the bounds on the parts keep below 256
    [tableIdentifierUtf8.length.toUInt8] ++ tableIdentifierUtf8 ++ commitmentSchemeCodec.encode scheme

/-- `CommitmentMapPrefixFoliate`: keyed by the table identifier and the scheme, both under
`Blake2_128Concat`; a leaf holds the identifier as text and the commitment's raw bytes. -/
def commitmentMapPrefixFoliate {Acc : Type} (cfg : StorageConfig Acc) :
    PrefixFoliate (TableIdentifier × CommitmentScheme × Unit) TableCommitmentBytes where
  prefixHash := cfg.commitmentStorageMapPrefix
  hashAndKeyTuple := .cons (blake2_128Concat cfg.blake2_128) cfg.tableIdentifierCodec
    (.cons (blake2_128Concat cfg.blake2_128) commitmentSchemeCodec .nil)
  value := cfg.tableCommitmentBytesCodec
  leafEncodeKey := commitmentMapLeafEncodeKey
  leafEncodeValue value := value.toList

/-- `STAKING_BALANCE_LOCK_ID`: `b"staking "`. -/
def STAKING_BALANCE_LOCK_ID : List UInt8 := [115, 116, 97, 107, 105, 110, 103, 32]

/-- The `n` big-endian bytes of `x` modulo `256 ^ n` (`to_be_bytes`, `to_big_endian`). -/
def bigEndianBytes (n x : ℕ) : List UInt8 :=
  (List.range n).reverse.map fun i => (x / 256 ^ i).toUInt8

/-- `LocksStakingPrefixFoliate::leaf_encode_value`: the amount of the first staking lock (zero
without one) as 31 big-endian bytes, then the contract's chain id and address. -/
def locksStakingLeafEncodeValue : List BalanceLock × ContractInfo → List UInt8
  | (locks, ⟨chainId, address⟩) =>
    let amount := ((locks.find? fun l => l.id.toList == STAKING_BALANCE_LOCK_ID).map (·.amount.toNat)).getD 0
    List.replicate 15 0 ++ bigEndianBytes 16 amount ++ bigEndianBytes 32 chainId.toNat ++ address.toList

/-- `LocksStakingPrefixFoliate`: keyed by the account under `Blake2_128Concat`; its value is the
account's locks with the staking contract's info. -/
def locksStakingPrefixFoliate {Acc : Type} (cfg : StorageConfig Acc) :
    PrefixFoliate (Acc × Unit) (List BalanceLock × ContractInfo) where
  prefixHash := cfg.locksPrefix
  hashAndKeyTuple := .cons (blake2_128Concat cfg.blake2_128) cfg.accountIdCodec .nil
  value := cfg.locksCodec.prod cfg.contractInfoCodec
  leafEncodeValue := locksStakingLeafEncodeValue

/-! ## Building and proving -/

/-- `hex::encode`: two lowercase hexadecimal digits per byte. -/
def hexEncode (bytes : List UInt8) : String :=
  let digit (n : ℕ) : Char := if n < 10 then Char.ofNat (48 + n) else Char.ofNat (87 + n)
  String.ofList (bytes.flatMap fun b => [digit (b.toNat / 16), digit (b.toNat % 16)])

/-- `eth_merkle_tree`'s `BytesError`; its contents are not kept. -/
structure BytesError where
deriving DecidableEq

/-- The `eth_merkle_tree` API the attestation tree calls: `keccak256` of a hex string, a tree
built from pre-hashed leaves, and a tree's leaf lookup and proofs; with what its tests read of a
tree: its root, its leaves as hashed by the tree, and `hash_pair` folding a proof. -/
structure MerkleTreeApi (T : Type) where
  keccak256 : String → Except BytesError String
  new : List String → Except Unit T
  locateLeaf : T → String → Option ℕ
  generateProof : T → ℕ → List String
  root : T → String
  leaves : T → List String
  hashPair : String → String → String

/-- `AttestationTreeProofError`. -/
inductive AttestationTreeProofError where
  | HashLeaf (source : BytesError)
  | NoSuchLeaf
deriving DecidableEq

/-- `AttestationTreeError`; the tree's own error is not kept. -/
inductive AttestationTreeError where
  | DecodeStorage (source : DecodeStorageError)
  | PreHashLeaf (source : BytesError)
  | CreateTreeFromLeaves
deriving DecidableEq

variable {T : Type} (api : MerkleTreeApi T)

/-- `prove_leaf_pair`: hashes the entry's leaf twice, finds it in the tree, and returns its
proof. -/
def proveLeafPair {KS V : Type} (pf : PrefixFoliate KS V) (attestationTree : T) (keyTuple : KS) (value : V) :
    Except AttestationTreeProofError (List String) := do
  let bytes := encodeKeyValueLeaf pf keyTuple value
  let preHash ← (api.keccak256 (hexEncode bytes)).mapError .HashLeaf
  let hash ← (api.keccak256 preHash).mapError .HashLeaf
  match api.locateLeaf attestationTree hash with
  | some leafIndex => pure (api.generateProof attestationTree leafIndex)
  | none => throw .NoSuchLeaf

/-- `attestation_tree_from_prefixes`: the leaves of the commitments, then those of the locks
with the contract info appended to each value, each hashed once here and once more by the
tree. -/
def attestationTreeFromPrefixes {Acc : Type} (cfg : StorageConfig Acc)
    (commitmentPrefixIter locksPrefixIter : List (List UInt8 × List UInt8)) (stakingContractInfo : List UInt8) :
    Except AttestationTreeError T := do
  let commitmentLeaves ←
    (encodePrefixLeaves (commitmentMapPrefixFoliate cfg) commitmentPrefixIter).mapError .DecodeStorage
  let locksLeaves ← (encodePrefixLeaves (locksStakingPrefixFoliate cfg)
    (locksPrefixIter.map fun e => (e.1, e.2 ++ stakingContractInfo))).mapError .DecodeStorage
  let preHashedLeaves ←
    ((commitmentLeaves ++ locksLeaves).mapM fun leafBytes => api.keccak256 (hexEncode leafBytes)).mapError .PreHashLeaf
  (api.new preHashedLeaves).mapError fun _ => .CreateTreeFromLeaves

end AttestationTree

end SxtNode
