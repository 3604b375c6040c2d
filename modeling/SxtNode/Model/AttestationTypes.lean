import SxtNode.Model.Core

/-!
# Attestations and external keys (`sxt-core::attestation`, `sxt-core::keystore`)

An attestation is an Ethereum-style signature over a block's state root and number, with the
public key that signed it and that key's Ethereum address. An account's keystore holds at most
one Ethereum key. `create_attestation_message` is the message an attestation signs: the state
root followed by the block number as eight big-endian bytes.
-/

set_option autoImplicit false

namespace SxtNode

/-- `EthereumSignature`: the scalars `r` and `s` and the recovery id `v`. -/
structure EthereumSignature where
  r : Vector UInt8 32
  s : Vector UInt8 32
  v : UInt8
deriving DecidableEq

/-- `Address20`. -/
abbrev Address20 := BoundedVec UInt8 20

/-- `AttestationStateRoot`. -/
abbrev AttestationStateRoot := BoundedVec UInt8 64

/-- `EthereumKey`: a SEC1 public key of 33 bytes and its address. -/
structure EthereumKey where
  pubKey : Vector UInt8 33
  address20 : Address20
deriving DecidableEq

/-- `UserKeystore`. -/
structure UserKeystore where
  ethKey : Option EthereumKey
deriving DecidableEq

/-- `Attestation::EthereumAttestation`, the one variant of `Attestation`. -/
structure Attestation (BH : Type) where
  signature : EthereumSignature
  proposedPubKey : Vector UInt8 33
  address20 : Address20
  stateRoot : AttestationStateRoot
  blockNumber : UInt32
  blockHash : BH
deriving DecidableEq

/-- `RegisterExternalAddress::EthereumAddress`. -/
structure RegisterExternalAddress where
  signature : EthereumSignature
  proposedPubKey : Vector UInt8 33
  address20 : Address20
deriving DecidableEq

/-- `u64::to_be_bytes`. -/
def UInt64.toBeBytes (n : UInt64) : List UInt8 :=
  ([56, 48, 40, 32, 24, 16, 8, 0] : List UInt64).map fun k => (n >>> k).toUInt8

/-- `create_attestation_message`. -/
def createAttestationMessage (stateRoot : List UInt8) (blockNumber : UInt64) : List UInt8 :=
  stateRoot ++ UInt64.toBeBytes blockNumber

/-- The third-party code of the keystore: `verify_eth_signature`, which recovers the signer's
key from the signature over the message's Ethereum hash and compares it with the key, and the
SCALE encoding of an account id. -/
structure KeystoreEnv (Acc : Type) where
  verifyEthSignature : List UInt8 → EthereumSignature → Vector UInt8 33 → Bool
  encodeAccount : Acc → List UInt8

end SxtNode
