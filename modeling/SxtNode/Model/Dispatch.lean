import SxtNode.Model.Permissions
import SxtNode.Model.SmartContracts
import SxtNode.Model.Indexing
import SxtNode.Model.Attestation

/-!
# The runtime's extrinsics

`construct_runtime!` gathers the pallets' calls into one `RuntimeCall`, and the runtime
dispatches one extrinsic after another, each from its own origin. Of the modelled pallets, the
tables, indexing, smart-contracts, keystore and attestation pallets keep their storage in the
record `Runtime`; `RuntimeCall` holds their extrinsics. The permissions pallet's storage is the
record's `permissions` field. Its extrinsics run there through
`PermissionsPallet.Call.runOn`, which drops the pallet's events, since the record keeps none
of them. `RuntimeStep` is one dispatched extrinsic of any of these pallets. `admits` says which
origins may dispatch the permissions pallet's extrinsics; the other pallets' extrinsics may
come from any origin. The runtime API of the commitments pallet reads the storage of a block.

Three pallets' extrinsics are not steps here. `pallet_system_tables::set_last_nonce`,
`pallet_rewards::set_payer_account`, and `set_staking_contract` and
`set_messaging_contract` of `pallet_system_contracts` are root calls. Each writes one value of
its own pallet's storage (an account's last nonce, the payer, a contract) and no field of
`Runtime`, so on the record each would be a step that changes nothing.
`SystemTables.setLastNonce` and `Rewards.setPayerAccount` model the first two on their
pallets' own states. The indexing pallet reaches the system tables only through
`Env.processSystemTable`, which the model takes as given, so a nonce set between two inserts
does not show in this record.
-/

set_option autoImplicit false

namespace SxtNode

/-- The extrinsics of the pallets whose storage is the record `Runtime`. The keystore's and the
attestation pallet's are one enumeration, `AttestationPallet.Call`. -/
inductive RuntimeCall (Acc H : Type) where
  | Tables (c : Tables.Call)
  | Indexing (c : Indexing.Call)
  | Smartcontracts (c : SmartContracts.PalletCall)
  | Attestations (c : AttestationPallet.Call Acc H)

variable {Acc : Type} [LinearOrder Acc] {H C : Type} [DecidableEq H]
variable (ddl : DdlEnv) (env : Env C H) (kenv : KeystoreEnv Acc)

/-- Dispatching an extrinsic to its pallet. -/
def RuntimeCall.run (origin : Origin Acc) : RuntimeCall Acc H → Runtime Acc H C →
    Fallible DispatchError (Runtime Acc H C)
  | .Tables c => c.run ddl env origin
  | .Indexing c => c.run env origin
  | .Smartcontracts c => c.run ddl env origin
  | .Attestations c => c.run kenv origin

/-- A permissions pallet's extrinsic, dispatched on the runtime's `permissions`. -/
def PermissionsPallet.Call.runOn (origin : Origin Acc) (c : PermissionsPallet.Call Acc) (s : Runtime Acc H C) :
    Runtime Acc H C :=
  { s with permissions := (dispatch (c.run origin) ⟨s.permissions, []⟩).permissions }

/-- One dispatched extrinsic of the runtime. -/
inductive RuntimeStep (admits : Origin Acc → Prop) : Runtime Acc H C → Runtime Acc H C → Prop where
  | permissions (origin : Origin Acc) (h : admits origin) (c : PermissionsPallet.Call Acc) (s : Runtime Acc H C) :
      RuntimeStep admits s (c.runOn origin s)
  | call (origin : Origin Acc) (c : RuntimeCall Acc H) (s : Runtime Acc H C) :
      RuntimeStep admits s (dispatch (c.run ddl env kenv origin) s)

/-! ## The commitments API -/

/-- `MAX_TABLES_IN_TABLE_COMMITMENTS_QUERY`. -/
def MAX_TABLES_IN_TABLE_COMMITMENTS_QUERY : ℕ := 64

/-- `CommitmentsApiBoundedTableIdentifiersList`. -/
abbrev CommitmentsApiBoundedTableIdentifiersList := BoundedVec TableIdentifier MAX_TABLES_IN_TABLE_COMMITMENTS_QUERY

omit [DecidableEq H] in
/-- `CommitmentsApi::table_commitments_any_scheme` as the runtime implements it, on the storage of
the block it is called at. -/
def CommitmentsApi.tableCommitmentsAnyScheme (s : Runtime Acc H C)
    (tableIdentifiers : CommitmentsApiBoundedTableIdentifiersList) : Option (AnyTableCommitments C) :=
  SxtNode.tableCommitmentsAnyScheme s.commitmentStorageMap tableIdentifiers.toList

end SxtNode
