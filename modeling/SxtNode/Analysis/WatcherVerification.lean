import SxtNode.Model.Watcher

/-!
# Signing and verifying attestations

The watcher signs `create_attestation_message`, the state root with the block number as eight
big-endian bytes, and the attestation pallet checks the signature over that same message, so
every attestation the watcher makes passes the pallet's check. The watcher's own check of stored
attestations rebuilds the message with `create_message`, four little-endian bytes, a message of
another length. Once the two digests differ, an ECDSA signature, which binds the digest it was
made over, does not recover the signer's key from the other one, and `verify_attestations`
rejects every attestation the watcher made.
-/

set_option autoImplicit false

namespace SxtNode

namespace Watcher

variable {SK D : Type} (crypto : EcdsaEnv SK D)

/-- Recovering the key from a signature made with `sk` gives `sk`'s public key. -/
def EcdsaEnv.RecoversSigner : Prop :=
  ∀ sk d, crypto.recoverFromDigest d (crypto.signDigestRecoverable sk d) = some (crypto.publicKey sk)

/-- A signature made over one digest does not recover the signer's key from another. -/
def EcdsaEnv.BindsDigest : Prop :=
  ∀ sk d d', d ≠ d' → crypto.recoverFromDigest d' (crypto.signDigestRecoverable sk d) ≠ some (crypto.publicKey sk)

theorem length_toLeBytes (n : UInt32) : (UInt32.toLeBytes n).length = 4 := rfl

theorem length_toBeBytes (n : UInt64) : (UInt64.toBeBytes n).length = 8 := rfl

/-- The watcher's message is four bytes shorter than the signed one. -/
theorem length_createAttestationMessage (stateRoot : List UInt8) (blockNumber : UInt32) :
    (createAttestationMessage stateRoot blockNumber.toUInt64).length = (createMessage stateRoot blockNumber).length + 4 := by
  simp only [createMessage, createAttestationMessage, List.length_append, length_toLeBytes, length_toBeBytes]

theorem verifyEthSignature_signEthMessage (hsign : crypto.RecoversSigner) (sk : SK) (msg : List UInt8) :
    verifyEthSignature crypto msg (signEthMessage crypto sk msg) (crypto.publicKey sk) = true := by
  simp [verifyEthSignature, signEthMessage, hsign sk]

/-- A signature does not verify for a message of another digest. -/
theorem verifyEthSignature_of_hashEthMsg_ne (hbind : crypto.BindsDigest) {sk : SK} {msg msg' : List UInt8}
    (hne : crypto.hashEthMsg msg ≠ crypto.hashEthMsg msg') :
    verifyEthSignature crypto msg' (signEthMessage crypto sk msg) (crypto.publicKey sk) = false := by
  have hrecover := hbind sk _ _ hne
  simpa [verifyEthSignature, signEthMessage] using hrecover

/-- For every key, state root and block, the attestation the watcher makes passes the pallet's
signature check over `create_attestation_message`, and `verify_attestations` rejects it, when
the two messages' digests differ. -/
theorem watcherAttestation_passes_pallet_fails_verifier (hsign : crypto.RecoversSigner) (hbind : crypto.BindsDigest)
    (hdigest : ∀ stateRoot k, crypto.hashEthMsg (createAttestationMessage stateRoot k.toUInt64) ≠
      crypto.hashEthMsg (createMessage stateRoot k))
    {Acc BH : Type} (encodeAccount : Acc → List UInt8) (sk : SK) (stateRoot : AttestationStateRoot) (k : UInt32)
    (blockHash : BH) :
    (crypto.keystoreEnv encodeAccount).verifyEthSignature (createAttestationMessage stateRoot.toList k.toUInt64)
        (createAttestation crypto sk stateRoot k blockHash).signature
        (createAttestation crypto sk stateRoot k blockHash).proposedPubKey = true ∧
      verifyAttestations crypto [createAttestation crypto sk stateRoot k blockHash] = .error .SxtCoreAttestationError := by
  constructor
  · exact verifyEthSignature_signEthMessage crypto hsign sk _
  · -- the first attestation's signature already fails over the watcher's message
    have hrej : verifyEthSignature crypto (createMessage stateRoot.toList k)
        (signEthMessage crypto sk (createAttestationMessage stateRoot.toList k.toUInt64))
        (crypto.publicKey sk) = false :=
      verifyEthSignature_of_hashEthMsg_ne crypto hbind (hdigest stateRoot.toList k)
    simp only [verifyAttestations, verifyAttestationsFrom, verifySignature, createAttestation, generateSignature,
      hrej, Bool.false_eq_true, ↓reduceIte]
    rfl

/-! ## A toy ECDSA -/

/-- Digests are message lengths modulo 256, a signature carries its digest, and every key's
public key is `[2, 2, …]`. -/
def lengthEcdsa : EcdsaEnv Unit UInt8 where
  hashEthMsg msg := msg.length.toUInt8
  signDigestRecoverable _ d := ⟨Vector.replicate 32 0, Vector.replicate 32 d, 0⟩
  recoverFromDigest d signature := if signature.s = Vector.replicate 32 d then some (Vector.replicate 33 2) else none
  publicKey _ := Vector.replicate 33 2
  address20 _ := ⟨List.replicate 20 0, by simp⟩

theorem lengthEcdsa_recoversSigner : lengthEcdsa.RecoversSigner := by
  intro sk d
  simp [lengthEcdsa]

theorem lengthEcdsa_bindsDigest : lengthEcdsa.BindsDigest := by
  intro sk d d' hne
  have hs : Vector.replicate 32 d ≠ Vector.replicate 32 d' := by
    intro h
    have hhead := congrArg (fun v : Vector UInt8 32 => v.toList.head?) h
    simp at hhead
    exact hne hhead
  simp [lengthEcdsa, hs]

theorem lengthEcdsa_digests_differ (stateRoot : List UInt8) (k : UInt32) :
    lengthEcdsa.hashEthMsg (createAttestationMessage stateRoot k.toUInt64) ≠
      lengthEcdsa.hashEthMsg (createMessage stateRoot k) := by
  intro h
  have hnat := congrArg UInt8.toNat h
  simp only [lengthEcdsa, length_createAttestationMessage, Nat.toUInt8_eq, UInt8.toNat_ofNat'] at hnat
  omega

theorem length_stateRootOne_le : ([1] : List UInt8).length ≤ 64 := by
  simp

/-- The attestation signed for block 5 over the state root `[1]`. -/
def toyAttestation : Attestation Unit :=
  createAttestation lengthEcdsa () ⟨[1], length_stateRootOne_le⟩ 5 ()

theorem toyAttestation_rejected :
    (lengthEcdsa.keystoreEnv fun (_ : Unit) => ([] : List UInt8)).verifyEthSignature
        (createAttestationMessage [1] 5) toyAttestation.signature toyAttestation.proposedPubKey = true ∧
      verifyAttestations lengthEcdsa [toyAttestation] = .error .SxtCoreAttestationError :=
  watcherAttestation_passes_pallet_fails_verifier lengthEcdsa lengthEcdsa_recoversSigner lengthEcdsa_bindsDigest
    lengthEcdsa_digests_differ (fun _ => []) () ⟨[1], length_stateRootOne_le⟩ 5 ()

end Watcher

end SxtNode
