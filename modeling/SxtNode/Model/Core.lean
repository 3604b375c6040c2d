import SxtNode.Lib.Bounded
import SxtNode.Lib.Transition

/-!
# The shared types of the node (`sxt-core`)

Table identifiers, quorum scopes and sizes, table types, the bounded byte strings the
pallets store, permission levels and origins. Byte strings are lists of bytes with their
bound as a field (`BoundedVec`), so a value the runtime could not hold cannot be built.
-/

set_option autoImplicit false

namespace SxtNode

/-- `IDENT_LENGTH`: the byte bound of names, namespaces and uuids. -/
def IDENT_LENGTH : ℕ := 64

/-- `ByteString`: the basic string type of the runtime, at most 64 bytes. -/
abbrev ByteString := BoundedVec UInt8 IDENT_LENGTH

/-- `TableName`. -/
abbrev TableName := ByteString

/-- `TableNamespace`. -/
abbrev TableNamespace := ByteString

/-- `TableIdentifier`: a table's name and namespace, as utf8 bytes. -/
structure TableIdentifier where
  name : TableName
  namespace_ : TableNamespace
deriving DecidableEq, Inhabited

/-- The bytes of `SXT_SYSTEM_STAKING`. -/
def systemStakingNamespace : List UInt8 := "SXT_SYSTEM_STAKING".toList.map (fun c => c.toNat.toUInt8)

/-- `TableIdentifier::is_staking_table`: the namespace is `SXT_SYSTEM_STAKING`. -/
def TableIdentifier.isStakingTable (t : TableIdentifier) : Bool :=
  t.namespace_.toList == systemStakingNamespace

/-- `QuorumScope`. -/
inductive QuorumScope where
  | Public
  | Privileged
deriving DecidableEq, Repr, Inhabited

/-- `InsertQuorumSize`: per scope, the number of matching submissions to exceed, or `none` when
the scope cannot insert to the table. -/
structure InsertQuorumSize where
  public' : Option UInt8
  privileged : Option UInt8
deriving DecidableEq, Inhabited

/-- `InsertQuorumSize::of_scope`. -/
def InsertQuorumSize.ofScope (q : InsertQuorumSize) : QuorumScope → Option UInt8
  | .Public => q.public'
  | .Privileged => q.privileged

/-- `TableType`. -/
inductive TableType where
  | CoreBlockchain
  | SCI
  | Community
  | Testing (quorum : InsertQuorumSize)
deriving DecidableEq, Inhabited

/-- `From<TableType> for InsertQuorumSize`. -/
def TableType.insertQuorumSize : TableType → InsertQuorumSize
  | .CoreBlockchain => ⟨some 3, none⟩
  | .SCI => ⟨some 1, none⟩
  | .Community => ⟨none, some 0⟩
  | .Testing quorum => quorum

/-- `Source`: the chain a table is indexed from. -/
inductive Source where
  | Ethereum
  | Sepolia
  | Bitcoin
  | Polygon
  | ZkSyncEra
  | UserCreated (name : ByteString)
deriving DecidableEq, Inhabited

/-- `CREATE_STMNT_LENGTH`. -/
def CREATE_STMNT_LENGTH : ℕ := 8192

/-- `CreateStatement`: the bytes of a DDL statement. -/
abbrev CreateStatement := BoundedVec UInt8 CREATE_STMNT_LENGTH

/-- `ID_LEN`. -/
def ID_LEN : ℕ := 36

/-- `BatchId`. -/
abbrev BatchId := BoundedVec UInt8 ID_LEN

/-- `DATA_MAX_LEN`. -/
def DATA_MAX_LEN : ℕ := 8000000

/-- `RowData`: submitted data in its serialized arrow IPC format. -/
abbrev RowData := BoundedVec UInt8 DATA_MAX_LEN

/-! ## Permissions and origins -/

/-- `TablesPalletPermission`. -/
inductive TablesPalletPermission where
  | EditSchema
  | EditRewards
  | EditUuid
deriving DecidableEq

/-- `GovernancePalletPermission`. -/
inductive GovernancePalletPermission where
  | AddIndexer
  | RemoveIndexer
deriving DecidableEq

/-- `IndexingPalletPermission`: public submission is global, privileged submission is per
table. -/
inductive IndexingPalletPermission where
  | SubmitDataForPublicQuorum
  | SubmitDataForPrivilegedQuorum (table : TableIdentifier)
deriving DecidableEq

/-- `AttestationPalletPermission`. -/
inductive AttestationPalletPermission where
  | AttestBlock
  | ForwardAttestedBlock
deriving DecidableEq

/-- `SmartContractsPalletPermission`. -/
inductive SmartContractsPalletPermission where
  | UpdateABI
deriving DecidableEq

/-- `PermissionLevel`. -/
inductive PermissionLevel where
  | UpdatePermissions
  | UserCreated (level : ByteString)
  | TablesPallet (p : TablesPalletPermission)
  | GovernancePallet (p : GovernancePalletPermission)
  | IndexingPallet (p : IndexingPalletPermission)
  | AttestationPallet (p : AttestationPalletPermission)
  | SmartContractsPallet (p : SmartContractsPalletPermission)
  | EditSpecificPermission (p : PermissionLevel)
deriving DecidableEq

/-- The origin of a call (`RawOrigin`). -/
inductive Origin (Acc : Type) where
  | Root
  | Signed (who : Acc)
  | None
deriving DecidableEq

/-- `DispatchError::BadOrigin` and the permission pallet's errors, shared by every pallet's
origin checks. -/
inductive OriginError where
  | BadOrigin
  | InsufficientPermissions
  | UnsignedTransaction
deriving DecidableEq, Repr

section Permissions

variable {Acc : Type} [DecidableEq Acc]

/-- `ensure_signed`. -/
def ensureSigned : Origin Acc → Except OriginError Acc
  | .Signed who => .ok who
  | _ => .error .BadOrigin

/-- `ensure_root`. -/
def ensureRoot : Origin Acc → Except OriginError Unit
  | .Root => .ok ()
  | _ => .error .BadOrigin

/-- `Permissions`: the permission list of each account (at most 32 levels). -/
abbrev Permissions (Acc : Type) := Acc → Option (BoundedVec PermissionLevel 32)

/-- `has_permissions`: the account's list holds `p`. -/
def hasPermissions (perms : Permissions Acc) (who : Acc) (p : PermissionLevel) : Bool :=
  match perms who with
  | some l => l.toList.contains p
  | none => false

/-- `ensure_root_or_permissioned`: root passes with no owner, a signed account passes with
itself as owner when it holds the permission. -/
def ensureRootOrPermissioned (perms : Permissions Acc) (origin : Origin Acc) (p : PermissionLevel) :
    Except OriginError (Option Acc) :=
  match origin with
  | .Root => .ok none
  | .Signed who => if hasPermissions perms who p then .ok (some who) else .error .InsufficientPermissions
  | .None => .error .UnsignedTransaction

omit [DecidableEq Acc] in
theorem ensureRootOrPermissioned_signed_ok {perms : Permissions Acc} {who : Acc} {p : PermissionLevel}
    {r : Option Acc} (h : ensureRootOrPermissioned perms (.Signed who) p = .ok r) :
    hasPermissions perms who p = true := by
  unfold ensureRootOrPermissioned at h
  by_cases hp : hasPermissions perms who p = true
  · exact hp
  · simp [hp] at h

end Permissions

end SxtNode
