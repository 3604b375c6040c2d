import SxtNode.Model.AttestationTree

/-!
# What the attestation tree commits to

Three properties of the attestation tree's leaves. A storage key built by
`storage_key_for_prefix_key_tuple` decodes back to its key tuple for every arity and mix of
reversible hashers, given lawful SCALE codecs, and for `CommitmentStorageMap` it is the key
FRAME's double map stores the entry under. Every entry the tree was built from is proven by
`prove_leaf_pair`: the prover's double `keccak256` of the re-encoded leaf is the hash the tree
made of the builder's pre-hashed leaf. But leaves do not tell entries apart: the commitment
leaf writes a table identifier as `namespace.name` without escaping the separator, so the
tables `A.B`.`C` and `A`.`B.C` get one leaf. The locks leaf, whose key is the account's SCALE
encoding and whose value has a fixed width, does tell accounts apart (`locksLeaf_eq_iff`).
-/

set_option autoImplicit false

namespace SxtNode

namespace AttestationTree

/-! ## Storage keys -/

theorem storageKeyForPrefixKeyTuple_commitmentMap {Acc : Type} (cfg : StorageConfig Acc) (t : TableIdentifier)
    (scheme : CommitmentScheme) :
    storageKeyForPrefixKeyTuple (commitmentMapPrefixFoliate cfg) (t, scheme, ()) =
      cfg.commitmentStorageMapPrefix ++ (cfg.blake2_128 (cfg.tableIdentifierCodec.encode t)).toList ++
        cfg.tableIdentifierCodec.encode t ++ (cfg.blake2_128 (commitmentSchemeCodec.encode scheme)).toList ++
        commitmentSchemeCodec.encode scheme := by
  simp only [storageKeyForPrefixKeyTuple, commitmentMapPrefixFoliate, HashAndKeyTuple.storageKeySuffixFromKeyTuple,
    blake2_128Concat, ReversibleHasher.concat_hash, List.append_nil, List.append_assoc]

/-- A storage key and a value's encoding decode to the key tuple and the value, for every prefix
foliate whose codecs are lawful; and the key of a `CommitmentStorageMap` entry is FRAME's
`Blake2_128Concat` double-map key. -/
theorem storageKey_decodes_and_matches_frame :
    (∀ {KS V : Type} (pf : PrefixFoliate KS V), pf.hashAndKeyTuple.Lawful → pf.value.Lawful →
      ∀ keyTuple value, decodeStorageKeyAndValue pf (storageKeyForPrefixKeyTuple pf keyTuple) (pf.value.encode value) =
        .ok (keyTuple, value)) ∧
    ∀ {Acc : Type} (cfg : StorageConfig Acc) (t : TableIdentifier) (scheme : CommitmentScheme),
      storageKeyForPrefixKeyTuple (commitmentMapPrefixFoliate cfg) (t, scheme, ()) =
        cfg.commitmentStorageMapPrefix ++ (cfg.blake2_128 (cfg.tableIdentifierCodec.encode t)).toList ++
          cfg.tableIdentifierCodec.encode t ++ (cfg.blake2_128 (commitmentSchemeCodec.encode scheme)).toList ++
          commitmentSchemeCodec.encode scheme :=
  ⟨fun pf hk hv keyTuple value => decodeStorageKeyAndValue_storageKey pf hk hv keyTuple value,
    fun cfg t scheme => storageKeyForPrefixKeyTuple_commitmentMap cfg t scheme⟩

/-- A storage item keyed by two bytes, the first as it is and the second after a digest of
zeros, with a one-byte value. -/
def bytePairFoliate : PrefixFoliate (UInt8 × UInt8 × Unit) UInt8 where
  prefixHash := [7, 7]
  hashAndKeyTuple := .cons .identity Codec.byte
    (.cons (ReversibleHasher.concat 16 fun _ => Vector.replicate 16 0) Codec.byte .nil)
  value := Codec.byte

/-- The two-byte item's key decodes, and so does every `CommitmentStorageMap` key whose table
identifier and commitment codecs are lawful: the scheme's own codec is. -/
theorem storageKeys_decode :
    decodeStorageKeyAndValue bytePairFoliate (storageKeyForPrefixKeyTuple bytePairFoliate (1, 2, ())) [3] =
      .ok ((1, 2, ()), 3) ∧
    ∀ {Acc : Type} (cfg : StorageConfig Acc), cfg.tableIdentifierCodec.Lawful → cfg.tableCommitmentBytesCodec.Lawful →
      ∀ t scheme value, decodeStorageKeyAndValue (commitmentMapPrefixFoliate cfg)
        (storageKeyForPrefixKeyTuple (commitmentMapPrefixFoliate cfg) (t, scheme, ()))
        (cfg.tableCommitmentBytesCodec.encode value) = .ok ((t, scheme, ()), value) :=
  ⟨storageKey_decodes_and_matches_frame.1 bytePairFoliate ⟨Codec.lawful_byte, Codec.lawful_byte, trivial⟩
    Codec.lawful_byte (1, 2, ()) 3,
    fun cfg hident hvalue t scheme value => storageKey_decodes_and_matches_frame.1 (commitmentMapPrefixFoliate cfg)
      ⟨hident, commitmentSchemeCodec_lawful, trivial⟩ hvalue (t, scheme, ()) value⟩

/-! ## Every entry is proven -/

variable {T : Type} (api : MerkleTreeApi T)

/-- What is assumed of `eth_merkle_tree`: `new` hashes each supplied leaf once with `keccak256`
into the tree's leaves, `locate_leaf` finds each leaf, and a leaf's proof folds to the root. -/
structure MerkleTreeApi.Correct : Prop where
  new_hashes_leaves : ∀ pre tree, api.new pre = .ok tree →
    ∀ p ∈ pre, ∃ h, api.keccak256 p = .ok h ∧ h ∈ api.leaves tree
  locateLeaf_of_mem : ∀ tree h, h ∈ api.leaves tree →
    ∃ i, api.locateLeaf tree h = some i ∧ (api.leaves tree)[i]? = some h
  generateProof_root : ∀ tree i h, (api.leaves tree)[i]? = some h →
    (api.generateProof tree i).foldl api.hashPair h = api.root tree

/-- `prove_leaf_pair` proves the entry: the leaf's double hash and its proof fold to the root. -/
def ProvenInTree {KS V : Type} (pf : PrefixFoliate KS V) (tree : T) (keyTuple : KS) (value : V) : Prop :=
  ∃ leafHash proof,
    (api.keccak256 (hexEncode (encodeKeyValueLeaf pf keyTuple value))).bind api.keccak256 = .ok leafHash ∧
      proveLeafPair api pf tree keyTuple value = .ok proof ∧ proof.foldl api.hashPair leafHash = api.root tree

theorem attestationTreeFromPrefixes_ok {Acc : Type} {cfg : StorageConfig Acc}
    {commitmentPrefixIter locksPrefixIter : List (List UInt8 × List UInt8)} {stakingContractInfo : List UInt8}
    {tree : T} (h : attestationTreeFromPrefixes api cfg commitmentPrefixIter locksPrefixIter stakingContractInfo = .ok tree) :
    ∃ commitmentLeaves locksLeaves pre,
      encodePrefixLeaves (commitmentMapPrefixFoliate cfg) commitmentPrefixIter = .ok commitmentLeaves ∧
      encodePrefixLeaves (locksStakingPrefixFoliate cfg)
        (locksPrefixIter.map fun e => (e.1, e.2 ++ stakingContractInfo)) = .ok locksLeaves ∧
      (commitmentLeaves ++ locksLeaves).mapM (fun leafBytes => api.keccak256 (hexEncode leafBytes)) = .ok pre ∧
      api.new pre = .ok tree := by
  unfold attestationTreeFromPrefixes at h
  simp only [Except.bind_eq_ok_iff, Except.mapError_eq_ok_iff] at h
  obtain ⟨commitmentLeaves, hc, locksLeaves, hl, pre, hpre, htree⟩ := h
  exact ⟨commitmentLeaves, locksLeaves, pre, hc, hl, hpre, htree⟩

theorem mem_encodePrefixLeaves {KS V : Type} {pf : PrefixFoliate KS V} {pairs : List (List UInt8 × List UInt8)}
    {leaves : List (List UInt8)} (h : encodePrefixLeaves pf pairs = .ok leaves) {keyBytes valueBytes : List UInt8}
    {keyTuple : KS} {value : V} (hmem : (keyBytes, valueBytes) ∈ pairs)
    (hdec : decodeStorageKeyAndValue pf keyBytes valueBytes = .ok (keyTuple, value)) :
    encodeKeyValueLeaf pf keyTuple value ∈ leaves := by
  obtain ⟨leaf, hleaf, hf⟩ := Fallible.exists_mem_of_mapM_eq_ok h hmem
  rw [hdec] at hf
  cases hf
  exact hleaf

/-- A leaf the tree was built from is proven: the prover's second hash is the tree's hash of the
builder's pre-hashed leaf. -/
theorem provenInTree_of_mem (hapi : MerkleTreeApi.Correct api) {KS V : Type} {pf : PrefixFoliate KS V}
    {leaves : List (List UInt8)} {pre : List String} {tree : T} {keyTuple : KS} {value : V}
    (hpre : leaves.mapM (fun leafBytes => api.keccak256 (hexEncode leafBytes)) = .ok pre)
    (hnew : api.new pre = .ok tree) (hmem : encodeKeyValueLeaf pf keyTuple value ∈ leaves) :
    ProvenInTree api pf tree keyTuple value := by
  obtain ⟨p, hp, hpreHash⟩ := Fallible.exists_mem_of_mapM_eq_ok hpre hmem
  obtain ⟨h, hh, hleaf⟩ := hapi.new_hashes_leaves pre tree hnew p hp
  obtain ⟨i, hi, hget⟩ := hapi.locateLeaf_of_mem tree h hleaf
  have hprove : proveLeafPair api pf tree keyTuple value = .ok (api.generateProof tree i) := by
    simp only [proveLeafPair, hpreHash, hh, hi, Except.mapError, bind, Except.bind]
    rfl
  refine ⟨h, api.generateProof tree i, ?_, hprove, hapi.generateProof_root tree i h hget⟩
  rw [hpreHash]
  exact hh

/-- Every commitment entry and every lock entry, with the contract info appended, that
decodes is proven in a tree built from them. -/
theorem attestationTree_proves_every_entry (hapi : MerkleTreeApi.Correct api) {Acc : Type} {cfg : StorageConfig Acc}
    {commitmentPrefixIter locksPrefixIter : List (List UInt8 × List UInt8)} {stakingContractInfo : List UInt8}
    {tree : T} (h : attestationTreeFromPrefixes api cfg commitmentPrefixIter locksPrefixIter stakingContractInfo = .ok tree) :
    (∀ keyBytes valueBytes keyTuple value, (keyBytes, valueBytes) ∈ commitmentPrefixIter →
      decodeStorageKeyAndValue (commitmentMapPrefixFoliate cfg) keyBytes valueBytes = .ok (keyTuple, value) →
      ProvenInTree api (commitmentMapPrefixFoliate cfg) tree keyTuple value) ∧
    (∀ keyBytes data keyTuple value, (keyBytes, data) ∈ locksPrefixIter →
      decodeStorageKeyAndValue (locksStakingPrefixFoliate cfg) keyBytes (data ++ stakingContractInfo) =
        .ok (keyTuple, value) →
      ProvenInTree api (locksStakingPrefixFoliate cfg) tree keyTuple value) := by
  obtain ⟨commitmentLeaves, locksLeaves, pre, hc, hl, hpre, hnew⟩ := attestationTreeFromPrefixes_ok api h
  constructor
  · intro keyBytes valueBytes keyTuple value hmem hdec
    have hleaf := mem_encodePrefixLeaves hc hmem hdec
    exact provenInTree_of_mem api hapi hpre hnew (List.mem_append_left _ hleaf)
  · intro keyBytes data keyTuple value hmem hdec
    -- the locks are decoded with the contract info appended to their values
    have hmem' : (keyBytes, data ++ stakingContractInfo) ∈
        locksPrefixIter.map fun e => (e.1, e.2 ++ stakingContractInfo) :=
      List.mem_map.mpr ⟨(keyBytes, data), hmem, rfl⟩
    have hleaf := mem_encodePrefixLeaves hl hmem' hdec
    exact provenInTree_of_mem api hapi hpre hnew (List.mem_append_right _ hleaf)

/-! ### A tree over one commitment -/

/-- A tree that keeps the pre-hashed leaves as they are, hashes with the identity, and proves
each leaf by the first leaf, which is its root. -/
def listTreeApi : MerkleTreeApi (List String) where
  keccak256 s := .ok s
  new pre := .ok pre
  locateLeaf t h := if h ∈ t then some (t.idxOf h) else none
  generateProof t _ := [t.headD ""]
  root t := t.headD ""
  leaves t := t
  hashPair _ right := right

theorem listTreeApi_correct : MerkleTreeApi.Correct listTreeApi where
  new_hashes_leaves pre tree hnew p hp := by
    cases hnew
    exact ⟨p, rfl, hp⟩
  locateLeaf_of_mem tree h hmem := ⟨tree.idxOf h, if_pos hmem, List.getElem?_idxOf hmem⟩
  generateProof_root _ _ _ _ := rfl

/-- The table `C` of the namespace `A.B`. -/
def tableAB_C : TableIdentifier := ⟨⟨[67], by simp [IDENT_LENGTH]⟩, ⟨[65, 46, 66], by simp [IDENT_LENGTH]⟩⟩

/-- The table `B.C` of the namespace `A`. -/
def tableA_BC : TableIdentifier := ⟨⟨[66, 46, 67], by simp [IDENT_LENGTH]⟩, ⟨[65], by simp [IDENT_LENGTH]⟩⟩

/-- A runtime whose codecs read the table `A.B`.`C` from any key and a commitment of one byte
from any value, with prefixes of one byte. -/
def sampleStorageConfig : StorageConfig Unit where
  blake2_128 _ := Vector.replicate 16 0
  commitmentStorageMapPrefix := [1]
  locksPrefix := [2]
  tableIdentifierCodec := ⟨fun _ => [], fun bytes => .ok (tableAB_C, bytes)⟩
  tableCommitmentBytesCodec := ⟨fun c => c.toList, fun bytes => match bytes with
    | b :: rest => .ok (⟨[b], by simp [TABLE_COMMITMENT_MAX_LENGTH]⟩, rest)
    | [] => .error ()⟩
  accountIdCodec := ⟨fun _ => [], fun bytes => .ok ((), bytes)⟩
  locksCodec := ⟨fun _ => [], fun bytes => .ok ([], bytes)⟩
  contractInfoCodec := ⟨fun _ => [], fun bytes => .error ()⟩

/-- The raw key of the table `A.B`.`C` under dynamic Dory. -/
def sampleCommitmentKey : List UInt8 :=
  storageKeyForPrefixKeyTuple (commitmentMapPrefixFoliate sampleStorageConfig) (tableAB_C, .DynamicDory, ())

/-- The commitment of one byte `9`. -/
def sampleCommitment : TableCommitmentBytes := ⟨[9], by simp [TABLE_COMMITMENT_MAX_LENGTH]⟩

theorem oneCommitmentTree_proves_entry :
    ∃ tree, attestationTreeFromPrefixes listTreeApi sampleStorageConfig [(sampleCommitmentKey, [9])] [] [] = .ok tree ∧
      ProvenInTree listTreeApi (commitmentMapPrefixFoliate sampleStorageConfig) tree (tableAB_C, .DynamicDory, ())
        sampleCommitment := by
  have htree : attestationTreeFromPrefixes listTreeApi sampleStorageConfig [(sampleCommitmentKey, [9])] [] [] =
      .ok [hexEncode (encodeKeyValueLeaf (commitmentMapPrefixFoliate sampleStorageConfig)
        (tableAB_C, .DynamicDory, ()) sampleCommitment)] := rfl
  exact ⟨_, htree, (attestationTree_proves_every_entry listTreeApi listTreeApi_correct htree).1
    sampleCommitmentKey [9] _ _ List.mem_cons_self rfl⟩

/-! ## Leaves do not tell identifiers apart -/

/-- The commitment leaves of the tables `A.B`.`C` and `A`.`B.C`, under one scheme and with one
commitment, are the same bytes. -/
theorem dottedIdentifiers_share_leaf {Acc : Type} (cfg : StorageConfig Acc) (scheme : CommitmentScheme)
    (value : TableCommitmentBytes) :
    tableAB_C ≠ tableA_BC ∧
      encodeKeyValueLeaf (commitmentMapPrefixFoliate cfg) (tableAB_C, scheme, ()) value =
        encodeKeyValueLeaf (commitmentMapPrefixFoliate cfg) (tableA_BC, scheme, ()) value := by
  refine ⟨fun h => ?_, rfl⟩
  have hname := congrArg (fun t => t.name.toList) h
  simp [tableAB_C, tableA_BC] at hname

/-! ## Locks leaves tell accounts apart -/

/-- A locks leaf's value is the staking amount's 31 bytes, the chain id's 32 and the address's
20. -/
theorem length_locksStakingLeafEncodeValue (v : List BalanceLock × ContractInfo) :
    (locksStakingLeafEncodeValue v).length = 83 := by
  obtain ⟨locks, chainId, address⟩ := v
  simp [locksStakingLeafEncodeValue, bigEndianBytes]

/-- The locks leaves, whose key is the account's SCALE encoding, tell accounts apart when the
account codec is lawful: two entries share a leaf exactly when they are of one account and their
values write the same bytes. -/
theorem locksLeaf_eq_iff {Acc : Type} (cfg : StorageConfig Acc) (hacc : cfg.accountIdCodec.Lawful) (a a' : Acc)
    (v v' : List BalanceLock × ContractInfo) :
    encodeKeyValueLeaf (locksStakingPrefixFoliate cfg) (a, ()) v =
        encodeKeyValueLeaf (locksStakingPrefixFoliate cfg) (a', ()) v' ↔
      a = a' ∧ locksStakingLeafEncodeValue v = locksStakingLeafEncodeValue v' := by
  have hinj := Codec.Lawful.encode_injective
    ((locksStakingPrefixFoliate cfg).hashAndKeyTuple.keyTupleCodec_lawful ⟨hacc, trivial⟩)
  constructor
  · intro h
    -- the values have one length, so the keys are the leaves' fronts
    obtain ⟨hkey, hvalue⟩ := List.append_inj' h
      ((length_locksStakingLeafEncodeValue v).trans (length_locksStakingLeafEncodeValue v').symm)
    exact ⟨congrArg Prod.fst (hinj hkey), hvalue⟩
  · rintro ⟨rfl, hvalue⟩
    exact congrArg (_ ++ ·) hvalue

/-- A runtime whose accounts are single bytes, with the sample's other codecs. -/
def byteAccountStorageConfig : StorageConfig UInt8 :=
  { sampleStorageConfig with accountIdCodec := Codec.byte }

/-- No staking lock, and the zero contract. -/
def noLocks : List BalanceLock × ContractInfo := ([], ⟨0, Vector.replicate 20 0⟩)

theorem twoAccounts_locksLeaves_differ :
    encodeKeyValueLeaf (locksStakingPrefixFoliate byteAccountStorageConfig) (1, ()) noLocks ≠
      encodeKeyValueLeaf (locksStakingPrefixFoliate byteAccountStorageConfig) (2, ()) noLocks := fun h =>
  absurd ((locksLeaf_eq_iff byteAccountStorageConfig Codec.lawful_byte 1 2 noLocks noLocks).mp h).1 (by decide)

end AttestationTree

end SxtNode
