import SxtNode.Model.Attestation
import SxtNode.Model.CommitmentSql

/-!
# What a recorded attestation carries

In every reachable state, each attestation recorded for a block number `k` carries `k` as its
own block number, verifies over its state root and `k` under its public key, and was
announced by an account that had registered a key with that public key; and no two of the
block's attestations share a public key. `AttestationInv` carries these facts together with
the one about the keystore they rest on (every key it holds was registered), and each call of
the two pallets keeps it.

What a recorded attestation need not carry is a past block number, or the address registered
with its key: the checks against the current block read the call's parameter, not the
attestation's own number, and the address is never compared.
-/

set_option autoImplicit false

namespace SxtNode

namespace AttestationPallet

variable {Acc : Type} [LinearOrder Acc] {H C : Type} [DecidableEq H] (kenv : KeystoreEnv Acc)

/-- The attestations recorded for block `k`. -/
def recorded (s : Runtime Acc H C) (k : UInt32) : List (Attestation H) :=
  (s.attestations.getD k default).toList

/-- The facts every reachable state keeps about the keystore and the recorded attestations. -/
structure AttestationInv (s : Runtime Acc H C) : Prop where
  keys_registered : ∀ who ks key, s.keys.lookup who = some ks → ks.ethKey = some key →
    KeystoreEvent.EthereumKeyRegistered who key ∈ s.keystoreEvents
  own_number : ∀ k, ∀ a ∈ recorded s k, a.blockNumber = k
  signed : ∀ k, ∀ a ∈ recorded s k,
    kenv.verifyEthSignature (createAttestationMessage a.stateRoot.toList k.toUInt64) a.signature
      a.proposedPubKey = true
  attested : ∀ k, ∀ a ∈ recorded s k, ∃ who key, AttestationEvent.BlockAttested k a who ∈ s.attestationEvents ∧
    KeystoreEvent.EthereumKeyRegistered who key ∈ s.keystoreEvents ∧ key.pubKey = a.proposedPubKey
  distinct_keys : ∀ k, ((recorded s k).map Attestation.proposedPubKey).Nodup

omit [DecidableEq H] in
theorem attestationInv_init {s : Runtime Acc H C} (h : Init s) : AttestationInv kenv s := by
  obtain ⟨hkeys, hatt, -, -⟩ := h
  have hnone : ∀ k, recorded s k = [] := fun k => by simp [recorded, hatt]
  constructor
  · intro who ks key hks
    simp [hkeys] at hks
  · intro k a ha
    simp [hnone] at ha
  · intro k a ha
    simp [hnone] at ha
  · intro k a ha
    simp [hnone] at ha
  · intro k
    simp [hnone]

omit [DecidableEq H] in
/-- A step that leaves the attestations alone, keeps the events and only grows them, and adds
no key that was not registered keeps the invariant. -/
theorem AttestationInv.mono {s s' : Runtime Acc H C} (hi : AttestationInv kenv s)
    (hatt : s'.attestations = s.attestations) (hae : s.attestationEvents ⊆ s'.attestationEvents)
    (hke : s.keystoreEvents ⊆ s'.keystoreEvents)
    (hkeys : ∀ who ks key, s'.keys.lookup who = some ks → ks.ethKey = some key →
      KeystoreEvent.EthereumKeyRegistered who key ∈ s'.keystoreEvents) : AttestationInv kenv s' := by
  have hrec : ∀ k, recorded s' k = recorded s k := fun k => by simp only [recorded, hatt]
  constructor
  · exact hkeys
  · intro k a ha
    exact hi.own_number k a (hrec k ▸ ha)
  · intro k a ha
    exact hi.signed k a (hrec k ▸ ha)
  · intro k a ha
    obtain ⟨who, key, hev, hreg, hpub⟩ := hi.attested k a (hrec k ▸ ha)
    exact ⟨who, key, hae hev, hke hreg, hpub⟩
  · intro k
    rw [hrec]
    exact hi.distinct_keys k

omit [DecidableEq H] in
theorem attestationInv_unchanged {s s' : Runtime Acc H C} (hi : AttestationInv kenv s) (hu : Unchanged s s') :
    AttestationInv kenv s' := by
  obtain ⟨hkeys, hatt, hae, hke⟩ := hu
  refine hi.mono kenv hatt (by rw [hae]; exact List.Subset.refl _) (by rw [hke]; exact List.Subset.refl _) ?_
  rw [hkeys, hke]
  exact hi.keys_registered

omit [DecidableEq H] in
/-- Storing a keystore for `who` keeps every held key registered, when the keystore's own key,
if it has one, is announced in the new events. -/
theorem keysRegistered_setKeystore {s : Runtime Acc H C} {who : Acc} {ks : UserKeystore}
    {events : List (KeystoreEvent Acc)} (hi : AttestationInv kenv s) (hsub : s.keystoreEvents ⊆ events)
    (hks : ∀ key, ks.ethKey = some key → KeystoreEvent.EthereumKeyRegistered who key ∈ events) :
    ∀ w ks' key, (s.keys.insert who ks).lookup w = some ks' → ks'.ethKey = some key →
      KeystoreEvent.EthereumKeyRegistered w key ∈ events := by
  intro w ks' key hlookup hkey
  by_cases hw : w = who
  · -- the account's keystore is the stored one
    subst hw
    rw [AList.lookup_insert, Option.some.injEq] at hlookup
    subst hlookup
    exact hks key hkey
  · rw [AList.lookup_insert_ne hw] at hlookup
    exact hsub (hi.keys_registered w ks' key hlookup hkey)

omit [DecidableEq H] in
/-- Registering a key keeps the invariant: the new key's registration is announced. -/
theorem attestationInv_registerKey {origin : Origin Acc} {who : Acc} {registration : RegisterExternalAddress}
    {s s' : Runtime Acc H C} (hi : AttestationInv kenv s) (h : Keystore.registerKey kenv origin who registration s = .ok s') :
    AttestationInv kenv s' := by
  obtain ⟨ks, hks, rfl⟩ := Keystore.registerKey_ok kenv h
  refine hi.mono kenv rfl (by simp) (by simp) ?_
  simp only [Keystore.deposit_keys, Keystore.setKeystore_keys, Keystore.deposit_keystoreEvents,
    Keystore.setKeystore_keystoreEvents]
  refine keysRegistered_setKeystore kenv hi (List.subset_append_left _ _) fun key hkey => ?_
  -- the stored keystore's key is the registered one
  rw [hks, Option.some.injEq] at hkey
  simp [← hkey]

omit [DecidableEq H] in
/-- Unregistering a key keeps the invariant: the account's keystore is left without a key. -/
theorem attestationInv_unregisterKey {origin : Origin Acc} {who : Acc} {s s' : Runtime Acc H C}
    (hi : AttestationInv kenv s) (h : Keystore.unregisterKey origin who s = .ok s') : AttestationInv kenv s' := by
  obtain ⟨ks, hks, rfl⟩ := Keystore.unregisterKey_ok h
  refine hi.mono kenv rfl (by simp) (by simp) ?_
  simp only [Keystore.deposit_keys, Keystore.setKeystore_keys, Keystore.deposit_keystoreEvents,
    Keystore.setKeystore_keystoreEvents]
  refine keysRegistered_setKeystore kenv hi (List.subset_append_left _ _) fun key hkey => ?_
  rw [hks] at hkey
  cases hkey

omit [DecidableEq H] in
theorem attestationInv_markBlockForwarded {origin : Origin Acc} {bn : UInt32} {s s' : Runtime Acc H C}
    (hi : AttestationInv kenv s) (h : markBlockForwarded origin bn s = .ok s') : AttestationInv kenv s' := by
  unfold markBlockForwarded at h
  obtain ⟨owner, -, h⟩ := Fallible.bind_eq_ok.mp h
  cases h
  exact hi.mono kenv rfl (fun _ he => he) (fun _ he => he) hi.keys_registered

omit [DecidableEq H] in
/-- The attestations of a block after one more is recorded for the attestation's number. -/
theorem recorded_attestBlock {s : Runtime Acc H C} {a : Attestation H} {v : BoundedVec (Attestation H) 64}
    (hv : v.toList = recorded s a.blockNumber ++ [a]) (e : AttestationEvent Acc H) (k : UInt32) :
    recorded (deposit (setAttestations s a.blockNumber v) e) k =
      if k = a.blockNumber then recorded s k ++ [a] else recorded s k := by
  unfold recorded
  split
  · rename_i hk
    subst hk
    simp [hv, recorded]
  · rename_i hk
    simp [StorageMap.getD_insert_ne _ _ _ hk]

omit [DecidableEq H] in
/-- An attestation of a block after one more is recorded is an earlier one, or the new one
under its own number. -/
theorem mem_recorded_attestBlock {s : Runtime Acc H C} {a : Attestation H} {v : BoundedVec (Attestation H) 64}
    (hv : v.toList = recorded s a.blockNumber ++ [a]) {e : AttestationEvent Acc H} {k : UInt32} {x : Attestation H}
    (hx : x ∈ recorded (deposit (setAttestations s a.blockNumber v) e) k) :
    x ∈ recorded s k ∨ (x = a ∧ k = a.blockNumber) := by
  rw [recorded_attestBlock hv e k] at hx
  split at hx
  · rename_i hk
    rcases List.mem_append.mp hx with hx | hx
    · exact Or.inl hx
    · exact Or.inr ⟨List.mem_singleton.mp hx, hk⟩
  · exact Or.inl hx

/-- Recording an attestation keeps the invariant: it is stored under its own number, it
verifies over that number, its signer had registered its public key, and no attestation of the
block had that public key. -/
theorem attestationInv_attestBlock {origin : Origin Acc} {bn : UInt32} {a : Attestation H}
    {s s' : Runtime Acc H C} (hi : AttestationInv kenv s) (h : attestBlock kenv origin bn a s = .ok s') :
    AttestationInv kenv s' := by
  obtain ⟨who, -, -, ⟨ks, stored, hks, hstored, hpub⟩, hsig, hnew, v, hv, rfl⟩ := attestBlock_ok kenv h
  have hrec := recorded_attestBlock hv (.BlockAttested a.blockNumber a who)
  have hreg := hi.keys_registered who ks stored hks hstored
  constructor
  · intro w ks' key hlookup hkey
    simpa using hi.keys_registered w ks' key (by simpa using hlookup) hkey
  · intro k x hx
    rcases mem_recorded_attestBlock hv hx with hx | ⟨rfl, rfl⟩
    · exact hi.own_number k x hx
    · rfl
  · intro k x hx
    rcases mem_recorded_attestBlock hv hx with hx | ⟨rfl, rfl⟩
    · exact hi.signed k x hx
    · exact hsig
  · intro k x hx
    rcases mem_recorded_attestBlock hv hx with hx | ⟨rfl, rfl⟩
    · obtain ⟨w, key, hev, hreg', hpub'⟩ := hi.attested k x hx
      exact ⟨w, key, by simp [hev], by simpa using hreg', hpub'⟩
    · exact ⟨who, stored, by simp, by simpa using hreg, hpub⟩
  · intro k
    rw [hrec]
    split
    · rename_i hk
      subst hk
      -- the new public key is not among the block's recorded ones
      rw [List.map_append, List.nodup_append]
      refine ⟨hi.distinct_keys _, List.nodup_singleton _, ?_⟩
      intro p hp q hq hpq
      obtain ⟨x, hx, rfl⟩ := List.mem_map.mp hp
      rw [List.map_singleton, List.mem_singleton] at hq
      exact hnew x hx (hpq.trans hq)
    · exact hi.distinct_keys k

theorem attestationInv_step : Stable (Step kenv) (fun s : Runtime Acc H C => AttestationInv kenv s) := by
  intro s s' hi hstep
  cases hstep with
  | call origin c =>
    cases c with
    | attestBlock bn a =>
      exact dispatch_preserves (AttestationInv kenv) (fun _ _ hi h => attestationInv_attestBlock kenv hi h) s hi
    | markBlockForwarded bn =>
      exact dispatch_preserves (AttestationInv kenv) (fun _ _ hi h => attestationInv_markBlockForwarded kenv hi h) s hi
    | registerKey who registration =>
      exact dispatch_preserves (AttestationInv kenv) (fun _ _ hi h => attestationInv_registerKey kenv hi h) s hi
    | unregisterKey who =>
      exact dispatch_preserves (AttestationInv kenv) (fun _ _ hi h => attestationInv_unregisterKey kenv hi h) s hi
  | other _ _ hu => exact attestationInv_unchanged kenv hi hu

/-- In every reachable state, the attestations recorded for block `k` carry `k`, verify over
their state root and `k`, were attested by accounts that had registered their public keys, and
have distinct public keys. -/
theorem attestationInv_reachable {s : Runtime Acc H C} (hs : Reachable Init (Step kenv) s) : AttestationInv kenv s :=
  Reachable.induction (fun _ h => attestationInv_init kenv h) (attestationInv_step kenv) hs

/-! ## An attestation of a future block -/

/-- A toy signature scheme: the signature of a message under a key is the sum of their bytes,
repeated. -/
def toySignature (pubKey : Vector UInt8 33) (msg : List UInt8) : EthereumSignature :=
  ⟨Vector.replicate 32 ((msg ++ pubKey.toList).foldl (· + ·) 0), Vector.replicate 32 0, 27⟩

/-- The keystore's third-party code over accounts `ℕ`: a signature verifies when it is the toy
signature of the message under the key, and an account id encodes as one byte. -/
def toyKeystoreEnv : KeystoreEnv ℕ :=
  ⟨fun msg signature pubKey => decide (signature = toySignature pubKey msg), fun n => [n.toUInt8]⟩

def attestorKey : Vector UInt8 33 := Vector.replicate 33 2

def registeredAddress : Address20 := ⟨List.replicate 20 0xAA, by simp⟩

def otherAddress : Address20 := ⟨List.replicate 20 0xBB, by simp⟩

def sampleRoot : AttestationStateRoot := ⟨[7], by decide⟩

/-- Account 1 may attest blocks. -/
def attestPerms : Permissions ℕ := fun a =>
  if a = 1 then some ⟨[.AttestationPallet .AttestBlock], by decide⟩ else none

/-- A new chain at block 5. -/
def attestStart : Runtime ℕ (List UInt8 × Option UInt64) MetaCommitment :=
  { Runtime.genesis with blockNumber := 5, permissions := attestPerms }

/-- Root registers `attestorKey` for account 1, with `registeredAddress`. -/
def keyRegistered : Runtime ℕ (List UInt8 × Option UInt64) MetaCommitment :=
  dispatch ((Call.registerKey 1 ⟨toySignature attestorKey [1], attestorKey, registeredAddress⟩).run toyKeystoreEnv .Root)
    attestStart

/-- An attestation of block 9 under `attestorKey`, signed over its own number and naming
`otherAddress`. -/
def futureAttestation : Attestation (List UInt8 × Option UInt64) :=
  ⟨toySignature attestorKey (createAttestationMessage sampleRoot.toList 9), attestorKey, otherAddress, sampleRoot, 9,
    ([], none)⟩

/-- Account 1 attests it, giving block 3 as the call's block number. -/
def futureAttestationRun : Runtime ℕ (List UInt8 × Option UInt64) MetaCommitment :=
  dispatch ((Call.attestBlock 3 futureAttestation).run toyKeystoreEnv (.Signed 1)) keyRegistered

/-- At block 5, the call records the attestation of block 9, whose address is not the one
registered with its key. -/
theorem futureAttestation_recorded :
    Reachable Init (Step toyKeystoreEnv) keyRegistered ∧
    attestBlock toyKeystoreEnv (.Signed 1) 3 futureAttestation keyRegistered = .ok futureAttestationRun ∧
    keyRegistered.blockNumber = 5 ∧ futureAttestation ∈ recorded futureAttestationRun 9 ∧
    keyRegistered.keys.lookup 1 = some ⟨some ⟨attestorKey, registeredAddress⟩⟩ ∧
    futureAttestation.address20 ≠ registeredAddress :=
  ⟨(Reachable.of_init ⟨rfl, rfl, rfl, rfl⟩).tail (Step.call _ _ _), eq_ok_dispatch (by decide), rfl, by decide,
    by decide, by decide⟩

/-- The invariant holds after the attestation of the future block too: it is recorded under its
own number, 9, and verifies over it. -/
theorem futureAttestationRun_attestationInv : AttestationInv toyKeystoreEnv futureAttestationRun :=
  attestationInv_reachable toyKeystoreEnv
    (((Reachable.of_init ⟨rfl, rfl, rfl, rfl⟩).tail (Step.call _ _ _)).tail (Step.call _ _ _))

end AttestationPallet

end SxtNode
