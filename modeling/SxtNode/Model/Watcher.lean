import SxtNode.Model.AttestationTypes

/-!
# The watcher's attestations (`watcher`)

The watcher signs the state root of each block for the attestation pallet, and can check the
attestations stored for a block. Signing goes through `sxt-core`'s `sign_eth_message` over
`create_attestation_message`, which appends the block number as eight big-endian bytes; the
check rebuilds each message with the watcher's own `create_message`, which appends it as four
little-endian bytes, and verifies it with `verify_eth_signature`.

secp256k1 (`k256`) and Keccak-256 are third-party: `EcdsaEnv` gives the digest of an
Ethereum-prefixed message, signing a digest, recovering a public key from a digest and a
signature (failing on malformed scalars or recovery ids), a signing key's compressed public key,
and a key's Ethereum address. Keys are compared by their compressed encoding, which is the
comparison of the points for keys that parse.
-/

set_option autoImplicit false

namespace SxtNode

namespace Watcher

/-- secp256k1 and Keccak-256 as the attestation helpers call them. -/
structure EcdsaEnv (SK D : Type) where
  /-- `hash_eth_msg`: Keccak-256 of the message behind `"\x19Ethereum Signed Message:\n{len}"`. -/
  hashEthMsg : List UInt8 → D
  /-- `SigningKey::sign_digest_recoverable`, as the signature's scalars and recovery id. -/
  signDigestRecoverable : SK → D → EthereumSignature
  /-- `VerifyingKey::recover_from_digest`, after reading the scalars and the recovery id. -/
  recoverFromDigest : D → EthereumSignature → Option (Vector UInt8 33)
  /-- `verifying_key().to_sec1_bytes()`. -/
  publicKey : SK → Vector UInt8 33
  /-- `uncompressed_public_key_to_address`. -/
  address20 : Vector UInt8 33 → Address20

variable {SK D : Type} (crypto : EcdsaEnv SK D)

/-- `sign_eth_message`: signs the digest of the Ethereum-prefixed message. -/
def signEthMessage (sk : SK) (message : List UInt8) : EthereumSignature :=
  crypto.signDigestRecoverable sk (crypto.hashEthMsg message)

/-- `verify_eth_signature`: the key recovered from the signature over the message's digest is
the given key. -/
def verifyEthSignature (msg : List UInt8) (signature : EthereumSignature) (pubKey : Vector UInt8 33) : Bool :=
  crypto.recoverFromDigest (crypto.hashEthMsg msg) signature == some pubKey

/-- The keystore's third-party code with `verify_eth_signature` built from `crypto`. -/
def EcdsaEnv.keystoreEnv {Acc : Type} (encodeAccount : Acc → List UInt8) : KeystoreEnv Acc :=
  ⟨verifyEthSignature crypto, encodeAccount⟩

/-- `u32::to_le_bytes`. -/
def UInt32.toLeBytes (n : UInt32) : List UInt8 :=
  ([0, 8, 16, 24] : List UInt32).map fun k => (n >>> k).toUInt8

/-- `create_message`: the state root, then the block number as four little-endian bytes. -/
def createMessage (stateRoot : List UInt8) (blockNumber : UInt32) : List UInt8 :=
  stateRoot ++ UInt32.toLeBytes blockNumber

/-- `generate_signature`. -/
def generateSignature (sk : SK) (message : List UInt8) : EthereumSignature :=
  signEthMessage crypto sk message

/-- The attestation `process_block` submits for a block: the signature over
`create_attestation_message` of the decoded state root and the block number, with the signer's
public key and address (`create_attestation`). -/
def createAttestation {BH : Type} (sk : SK) (stateRoot : AttestationStateRoot) (blockNumber : UInt32)
    (blockHash : BH) : Attestation BH :=
  let message := createAttestationMessage stateRoot.toList blockNumber.toUInt64
  { signature := generateSignature crypto sk message
    proposedPubKey := crypto.publicKey sk
    address20 := crypto.address20 (crypto.publicKey sk)
    stateRoot := stateRoot
    blockNumber := blockNumber
    blockHash := blockHash }

/-- The errors `verify_attestations` returns; those of the terminal are not modelled. -/
inductive VerifyError where
  | SxtCoreAttestationError
  | StateRootMismatch
deriving DecidableEq, Repr

/-- `verify_signature`. -/
def verifySignature (msg : List UInt8) (signature : EthereumSignature) (proposedPubKey : Vector UInt8 33) :
    Except VerifyError Unit :=
  if verifyEthSignature crypto msg signature proposedPubKey then .ok () else .error .SxtCoreAttestationError

/-- The loop of `verify_attestations`, from the first state root seen so far: each attestation's
signature over `create_message` of its own state root and block number, then its state root
against the first one. -/
def verifyAttestationsFrom {BH : Type} : Option AttestationStateRoot → List (Attestation BH) → Except VerifyError Unit
  | _, [] => .ok ()
  | firstStateRoot, attestation :: rest => do
    verifySignature crypto (createMessage attestation.stateRoot.toList attestation.blockNumber)
      attestation.signature attestation.proposedPubKey
    match firstStateRoot with
    | some firstRoot =>
      if firstRoot.toList != attestation.stateRoot.toList then throw .StateRootMismatch
      else verifyAttestationsFrom firstStateRoot rest
    | none => verifyAttestationsFrom (some attestation.stateRoot) rest

/-- `verify_attestations`; its block number argument is not read, each attestation's own is. -/
def verifyAttestations {BH : Type} (attestations : List (Attestation BH)) : Except VerifyError Unit :=
  verifyAttestationsFrom crypto none attestations

end Watcher

end SxtNode
