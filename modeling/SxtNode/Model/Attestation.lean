import SxtNode.Model.Runtime

/-!
# The keystore and attestation pallets

`pallet_keystore` maps an account to at most one Ethereum key. Root registers a key for an
account after checking a signature of the account id under it, and removes it again; the
account's keystore stays, without a key.

`pallet_attestation` records the attestations of signed accounts that hold the `AttestBlock`
permission, per block number. The attestation's signature must verify under the key
registered to the account, and no attestation under the same public key may be recorded for
the block yet. `attest_block` takes a block number and an attestation, which carries a block
number of its own: the checks against the current block read the parameter, and from the
match on the attestation on, the attestation's own number shadows it, so the signed message
and the storage key use the attestation's number.
-/

set_option autoImplicit false

namespace SxtNode

variable {Acc : Type} [LinearOrder Acc] {H C : Type} (kenv : KeystoreEnv Acc)

namespace Keystore

/-- `Keys::insert`. -/
def setKeystore (s : Runtime Acc H C) (who : Acc) (keystore : UserKeystore) : Runtime Acc H C :=
  { s with keys := s.keys.insert who keystore }

/-- `Self::deposit_event`. -/
def deposit (s : Runtime Acc H C) (event : KeystoreEvent Acc) : Runtime Acc H C :=
  { s with keystoreEvents := s.keystoreEvents ++ [event] }

@[simp] theorem setKeystore_keys (s : Runtime Acc H C) (who : Acc) (ks : UserKeystore) :
    (setKeystore s who ks).keys = s.keys.insert who ks := rfl

@[simp] theorem setKeystore_attestations (s : Runtime Acc H C) (who : Acc) (ks : UserKeystore) :
    (setKeystore s who ks).attestations = s.attestations := rfl

@[simp] theorem setKeystore_attestationEvents (s : Runtime Acc H C) (who : Acc) (ks : UserKeystore) :
    (setKeystore s who ks).attestationEvents = s.attestationEvents := rfl

@[simp] theorem setKeystore_keystoreEvents (s : Runtime Acc H C) (who : Acc) (ks : UserKeystore) :
    (setKeystore s who ks).keystoreEvents = s.keystoreEvents := rfl

@[simp] theorem deposit_keys (s : Runtime Acc H C) (e : KeystoreEvent Acc) : (deposit s e).keys = s.keys := rfl

@[simp] theorem deposit_attestations (s : Runtime Acc H C) (e : KeystoreEvent Acc) :
    (deposit s e).attestations = s.attestations := rfl

@[simp] theorem deposit_attestationEvents (s : Runtime Acc H C) (e : KeystoreEvent Acc) :
    (deposit s e).attestationEvents = s.attestationEvents := rfl

@[simp] theorem deposit_keystoreEvents (s : Runtime Acc H C) (e : KeystoreEvent Acc) :
    (deposit s e).keystoreEvents = s.keystoreEvents ++ [e] := rfl

/-- `add_ethereum_key`: a new keystore, or an existing one that has no Ethereum key yet. -/
def addEthereumKey (who : Acc) (key : EthereumKey) (s : Runtime Acc H C) :
    Fallible DispatchError (Runtime Acc H C) :=
  match s.keys.lookup who with
  | none => .ok (setKeystore s who ⟨some key⟩)
  | some userKeystore => do
    Fallible.ensure userKeystore.ethKey.isNone (.Keystore .EthereumKeyAlreadyRegistered)
    pure (setKeystore s who { userKeystore with ethKey := some key })

/-- Adding a key stores a keystore holding it. -/
theorem addEthereumKey_ok {who : Acc} {key : EthereumKey} {s s' : Runtime Acc H C}
    (h : addEthereumKey who key s = .ok s') : ∃ ks, ks.ethKey = some key ∧ s' = setKeystore s who ks := by
  unfold addEthereumKey at h
  split at h
  · cases h
    exact ⟨_, rfl, rfl⟩
  · obtain ⟨u, -, h⟩ := Fallible.bind_eq_ok.mp h
    cases h
    exact ⟨_, rfl, rfl⟩

/-- `remove_ethereum_key`: the keystore stays, without its key. -/
def removeEthereumKey (who : Acc) (s : Runtime Acc H C) : Fallible DispatchError (Runtime Acc H C) := do
  let userKeystore ← Fallible.okOr (s.keys.lookup who) (.Keystore .NoKeysRegistered)
  Fallible.ensure userKeystore.ethKey.isSome (.Keystore .NoEthereumKeyRegistered)
  pure (setKeystore s who { userKeystore with ethKey := none })

/-- Removing a key stores a keystore without one. -/
theorem removeEthereumKey_ok {who : Acc} {s s' : Runtime Acc H C} (h : removeEthereumKey who s = .ok s') :
    ∃ ks, ks.ethKey = none ∧ s' = setKeystore s who ks := by
  unfold removeEthereumKey at h
  simp only [Fallible.bind_eq_ok] at h
  obtain ⟨ks, -, u, -, h⟩ := h
  cases h
  exact ⟨_, rfl, rfl⟩

/-- `verify_ethereum_msg`: the account's key must be the given one, compared by public key
only, and the signature must verify under it. -/
def verifyEthereumMsg (who : Acc) (msg : List UInt8) (key : EthereumKey) (signature : EthereumSignature)
    (s : Runtime Acc H C) : Fallible DispatchError Unit := do
  let keystore ← Fallible.okOr (s.keys.lookup who) (.Keystore .KeyNotFound)
  let storedKey ← Fallible.okOr keystore.ethKey (.Keystore .KeyNotFound)
  Fallible.ensure (decide (storedKey.pubKey = key.pubKey)) (.Keystore .KeyMismatch)
  Fallible.ensure (kenv.verifyEthSignature msg signature key.pubKey) (.Keystore .SignatureVerificationFailed)

/-- A verified message was signed under the public key of the key the account holds. -/
theorem verifyEthereumMsg_ok {who : Acc} {msg : List UInt8} {key : EthereumKey} {signature : EthereumSignature}
    {s : Runtime Acc H C} {u : Unit} (h : verifyEthereumMsg kenv who msg key signature s = .ok u) :
    ∃ ks stored, s.keys.lookup who = some ks ∧ ks.ethKey = some stored ∧ stored.pubKey = key.pubKey ∧
      kenv.verifyEthSignature msg signature key.pubKey = true := by
  unfold verifyEthereumMsg at h
  simp only [Fallible.bind_eq_ok, Fallible.okOr_eq_ok, Fallible.ensure_eq_ok, decide_eq_true_eq] at h
  obtain ⟨ks, hks, stored, hstored, _, hpub, hverify⟩ := h
  exact ⟨ks, stored, hks, hstored, hpub, hverify⟩

/-- `register_key`. -/
def registerKey (origin : Origin Acc) (who : Acc) (registration : RegisterExternalAddress)
    (s : Runtime Acc H C) : Fallible DispatchError (Runtime Acc H C) := do
  Fallible.ofExcept DispatchError.ofOrigin (ensureRoot origin)
  Fallible.ensure
    (kenv.verifyEthSignature (kenv.encodeAccount who) registration.signature registration.proposedPubKey)
    (.Keystore .VerificationError)
  let newKey : EthereumKey := ⟨registration.proposedPubKey, registration.address20⟩
  let s ← addEthereumKey who newKey s
  pure (deposit s (.EthereumKeyRegistered who newKey))

/-- Registering a key is root's, checks the account's signature under the key, stores a
keystore holding it and deposits `EthereumKeyRegistered`. -/
theorem registerKey_ok {origin : Origin Acc} {who : Acc} {registration : RegisterExternalAddress}
    {s s' : Runtime Acc H C} (h : registerKey kenv origin who registration s = .ok s') :
    ∃ ks, ks.ethKey = some ⟨registration.proposedPubKey, registration.address20⟩ ∧
      s' = deposit (setKeystore s who ks) (.EthereumKeyRegistered who ⟨registration.proposedPubKey, registration.address20⟩) := by
  unfold registerKey at h
  simp only [Fallible.bind_eq_ok] at h
  obtain ⟨u, -, v, -, s₁, hadd, h⟩ := h
  cases h
  obtain ⟨ks, hks, rfl⟩ := addEthereumKey_ok hadd
  exact ⟨ks, hks, rfl⟩

/-- `unregister_key`. -/
def unregisterKey (origin : Origin Acc) (who : Acc) (s : Runtime Acc H C) :
    Fallible DispatchError (Runtime Acc H C) := do
  Fallible.ofExcept DispatchError.ofOrigin (ensureRoot origin)
  let s ← removeEthereumKey who s
  pure (deposit s (.EthereumKeyRemoved who))

/-- Unregistering a key stores a keystore without one and deposits `EthereumKeyRemoved`. -/
theorem unregisterKey_ok {origin : Origin Acc} {who : Acc} {s s' : Runtime Acc H C}
    (h : unregisterKey origin who s = .ok s') :
    ∃ ks, ks.ethKey = none ∧ s' = deposit (setKeystore s who ks) (.EthereumKeyRemoved who) := by
  unfold unregisterKey at h
  simp only [Fallible.bind_eq_ok] at h
  obtain ⟨u, -, s₁, hremove, h⟩ := h
  cases h
  obtain ⟨ks, hks, rfl⟩ := removeEthereumKey_ok hremove
  exact ⟨ks, hks, rfl⟩

end Keystore

namespace AttestationPallet

/-- `Self::deposit_event`. -/
def deposit (s : Runtime Acc H C) (event : AttestationEvent Acc H) : Runtime Acc H C :=
  { s with attestationEvents := s.attestationEvents ++ [event] }

/-- `Attestations::insert`. -/
def setAttestations (s : Runtime Acc H C) (blockNumber : UInt32) (attestations : BoundedVec (Attestation H) 64) :
    Runtime Acc H C :=
  { s with attestations := s.attestations.insert blockNumber attestations }

@[simp] theorem deposit_keys (s : Runtime Acc H C) (e : AttestationEvent Acc H) : (deposit s e).keys = s.keys := rfl

@[simp] theorem deposit_attestations (s : Runtime Acc H C) (e : AttestationEvent Acc H) :
    (deposit s e).attestations = s.attestations := rfl

@[simp] theorem deposit_attestationEvents (s : Runtime Acc H C) (e : AttestationEvent Acc H) :
    (deposit s e).attestationEvents = s.attestationEvents ++ [e] := rfl

@[simp] theorem deposit_keystoreEvents (s : Runtime Acc H C) (e : AttestationEvent Acc H) :
    (deposit s e).keystoreEvents = s.keystoreEvents := rfl

@[simp] theorem setAttestations_keys (s : Runtime Acc H C) (k : UInt32) (v : BoundedVec (Attestation H) 64) :
    (setAttestations s k v).keys = s.keys := rfl

@[simp] theorem setAttestations_attestations (s : Runtime Acc H C) (k : UInt32) (v : BoundedVec (Attestation H) 64) :
    (setAttestations s k v).attestations = s.attestations.insert k v := rfl

@[simp] theorem setAttestations_attestationEvents (s : Runtime Acc H C) (k : UInt32)
    (v : BoundedVec (Attestation H) 64) : (setAttestations s k v).attestationEvents = s.attestationEvents := rfl

@[simp] theorem setAttestations_keystoreEvents (s : Runtime Acc H C) (k : UInt32)
    (v : BoundedVec (Attestation H) 64) : (setAttestations s k v).keystoreEvents = s.keystoreEvents := rfl

/-- `must_not_have_submitted_attestation`: no recorded attestation has the public key. -/
def mustNotHaveSubmittedAttestation [DecidableEq H] (attestationsForBlock : BoundedVec (Attestation H) 64)
    (attestorKey : Vector UInt8 33) : Fallible DispatchError Unit :=
  Fallible.ensure (!attestationsForBlock.toList.any fun x => decide (x.proposedPubKey = attestorKey))
    (.Attestation .AttestationAlreadyRecordedError)

/-- `attest_block`. -/
def attestBlock [DecidableEq H] (origin : Origin Acc) (blockNumber : UInt32) (attestation : Attestation H)
    (s : Runtime Acc H C) : Fallible DispatchError (Runtime Acc H C) := do
  let who ← Fallible.ofExcept DispatchError.ofOrigin (ensureSigned origin)
  let currentBlock := s.blockNumber
  Fallible.ensure (decide (currentBlock > blockNumber.toNat)) (.Attestation .CannotAttestFutureBlock)
  Fallible.ensure (decide (currentBlock ≠ blockNumber.toNat)) (.Attestation .CannotAttestCurrentBlock)
  let _ ← Fallible.ofExcept DispatchError.ofOrigin
    (ensureRootOrPermissioned s.permissions origin (.AttestationPallet .AttestBlock))
  -- the match on the attestation binds its own `block_number`, shadowing the parameter
  let blockNumber := attestation.blockNumber
  let proposedKey : EthereumKey := ⟨attestation.proposedPubKey, attestation.address20⟩
  let msg := createAttestationMessage attestation.stateRoot.toList blockNumber.toUInt64
  Keystore.verifyEthereumMsg kenv who msg proposedKey attestation.signature s
  let attestationsForBlock := s.attestations.getD blockNumber default
  mustNotHaveSubmittedAttestation attestationsForBlock attestation.proposedPubKey
  let attestationsForBlock ← Fallible.ofExcept (fun _ => .Attestation .MaxAttestationsForBlockError)
    (attestationsForBlock.tryPush attestation)
  let s := setAttestations s blockNumber attestationsForBlock
  pure (deposit s (.BlockAttested blockNumber attestation who))

/-- An attestation is recorded when a signed account that may attest calls with a past block
number, holds a key with the attestation's public key, under which the attestation signs its
state root and its own block number, and no attestation under that key is recorded for that
block. The attestation is stored under, and the event names, its own block number. -/
theorem attestBlock_ok [DecidableEq H] {origin : Origin Acc} {blockNumber : UInt32} {attestation : Attestation H}
    {s s' : Runtime Acc H C} (h : attestBlock kenv origin blockNumber attestation s = .ok s') :
    ∃ who, origin = .Signed who ∧ blockNumber.toNat < s.blockNumber ∧
      (∃ ks stored, s.keys.lookup who = some ks ∧ ks.ethKey = some stored ∧
        stored.pubKey = attestation.proposedPubKey) ∧
      kenv.verifyEthSignature (createAttestationMessage attestation.stateRoot.toList attestation.blockNumber.toUInt64)
        attestation.signature attestation.proposedPubKey = true ∧
      (∀ x ∈ (s.attestations.getD attestation.blockNumber default).toList,
        x.proposedPubKey ≠ attestation.proposedPubKey) ∧
      ∃ v : BoundedVec (Attestation H) 64,
        v.toList = (s.attestations.getD attestation.blockNumber default).toList ++ [attestation] ∧
        s' = deposit (setAttestations s attestation.blockNumber v)
          (.BlockAttested attestation.blockNumber attestation who) := by
  unfold attestBlock at h
  simp only [Fallible.bind_eq_ok, Fallible.ensure_eq_ok, decide_eq_true_eq, Fallible.ofExcept_eq_ok] at h
  obtain ⟨who, hwho, _, hpast, _, -, owner, -, _, hverify, _, hfresh, v, hpush, h⟩ := h
  cases h
  have hsigned : origin = .Signed who := by
    cases origin <;> cases hwho
    rfl
  obtain ⟨ks, stored, hks, hstored, hpub, hsig⟩ := Keystore.verifyEthereumMsg_ok kenv hverify
  -- the recorded attestations under the block have other public keys
  have hnew : ∀ x ∈ (s.attestations.getD attestation.blockNumber default).toList,
      x.proposedPubKey ≠ attestation.proposedPubKey := by
    simpa [mustNotHaveSubmittedAttestation] using hfresh
  exact ⟨who, hsigned, hpast, ⟨ks, stored, hks, hstored, hpub⟩, hsig, hnew, v,
    (BoundedVec.tryPush_eq_ok.mp hpush).2, rfl⟩

/-- `mark_block_forwarded`. -/
def markBlockForwarded (origin : Origin Acc) (blockNumber : UInt32) (s : Runtime Acc H C) :
    Fallible DispatchError (Runtime Acc H C) := do
  let _ ← Fallible.ofExcept DispatchError.ofOrigin
    (ensureRootOrPermissioned s.permissions origin (.AttestationPallet .ForwardAttestedBlock))
  pure { s with lastForwardedBlock := some blockNumber }

/-- The extrinsics of the keystore and attestation pallets. -/
inductive Call (Acc H : Type) where
  | attestBlock (blockNumber : UInt32) (attestation : Attestation H)
  | markBlockForwarded (blockNumber : UInt32)
  | registerKey (who : Acc) (registration : RegisterExternalAddress)
  | unregisterKey (who : Acc)

/-- Dispatching an extrinsic. -/
def Call.run [DecidableEq H] (origin : Origin Acc) : Call Acc H → Runtime Acc H C →
    Fallible DispatchError (Runtime Acc H C)
  | .attestBlock blockNumber attestation => AttestationPallet.attestBlock kenv origin blockNumber attestation
  | .markBlockForwarded blockNumber => AttestationPallet.markBlockForwarded origin blockNumber
  | .registerKey who registration => Keystore.registerKey kenv origin who registration
  | .unregisterKey who => Keystore.unregisterKey origin who

/-- The storage outside the keystore and attestation pallets: their maps and events emptied. -/
def outsideOwn (s : Runtime Acc H C) : Runtime Acc H C :=
  { s with keys := ∅, attestations := ∅, lastForwardedBlock := none, attestationEvents := [], keystoreEvents := [] }

/-- No extrinsic of the two pallets writes storage outside theirs. -/
theorem Call.run_outsideOwn [DecidableEq H] {origin : Origin Acc} {c : Call Acc H} {s s' : Runtime Acc H C}
    (h : c.run kenv origin s = .ok s') : outsideOwn s' = outsideOwn s := by
  cases c with
  | attestBlock blockNumber attestation =>
    obtain ⟨-, -, -, -, -, -, v, -, rfl⟩ := attestBlock_ok kenv h
    rfl
  | markBlockForwarded blockNumber =>
    obtain ⟨-, -, h⟩ := Fallible.bind_eq_ok.mp h
    cases h
    rfl
  | registerKey who registration =>
    obtain ⟨ks, -, rfl⟩ := Keystore.registerKey_ok kenv h
    rfl
  | unregisterKey who =>
    obtain ⟨ks, -, rfl⟩ := Keystore.unregisterKey_ok h
    rfl

/-- What the rest of the runtime does to the two pallets' storage and events: nothing. It may
start a new block and change permissions. -/
def Unchanged (s s' : Runtime Acc H C) : Prop :=
  s'.keys = s.keys ∧ s'.attestations = s.attestations ∧ s'.attestationEvents = s.attestationEvents ∧
    s'.keystoreEvents = s.keystoreEvents

/-- No key and no attestation is recorded yet. -/
def Init (s : Runtime Acc H C) : Prop :=
  s.keys = ∅ ∧ s.attestations = ∅ ∧ s.attestationEvents = [] ∧ s.keystoreEvents = []

/-- One step of the runtime as the two pallets see it. -/
inductive Step [DecidableEq H] : Runtime Acc H C → Runtime Acc H C → Prop where
  | call (origin : Origin Acc) (c : Call Acc H) (s : Runtime Acc H C) : Step s (dispatch (c.run kenv origin) s)
  | other (s s' : Runtime Acc H C) : Unchanged s s' → Step s s'

end AttestationPallet

end SxtNode
