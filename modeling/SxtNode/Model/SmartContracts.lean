import SxtNode.Model.Tables

/-!
# The smart contracts pallet

`pallet_smartcontracts` stores the contracts whose events are indexed and the tables created
for each. Adding a contract records it with its tables, creates its namespace and then the
tables through `create_tables_inner`; removing it drops every table recorded for it.
-/

set_option autoImplicit false

namespace SxtNode

namespace SmartContracts

variable {Acc : Type} [LinearOrder Acc] {H C : Type}

/-- `Self::deposit_event`. -/
def deposit (s : Runtime Acc H C) (events : List (SmartContractsEvent Acc)) : Runtime Acc H C :=
  { s with smartContractsEvents := s.smartContractsEvents ++ events }

/-- The starting block recorded for each table of a contract in `pallet_indexing::BlockNumbers`. -/
def recordStartingBlock (s : Runtime Acc H C) (tableIds : List (TableIdentifier × TableType)) :
    Option UInt64 → Runtime Acc H C
  | some startBlock =>
    { s with blockNumbers := tableIds.foldl (fun m e => m.insert e.1 startBlock) s.blockNumbers }
  | none => s

/-- The loop of `remove_smartcontract`: drops each recorded table and its commitments; the first
table that is not registered fails the call. -/
def dropContractTables : List (TableIdentifier × TableType) → Runtime Acc H C → Fallible DispatchError (Runtime Acc H C)
  | [], s => pure s
  | (ident, tableType) :: rest, s => do
    let s ← Tables.dropSingleTable tableType ident s
    dropContractTables rest (Tables.removeCommits ident s)

/-- `remove_smartcontract`. -/
def removeSmartcontract (origin : Origin Acc) (source : Source) (address : ContractAddress) (s : Runtime Acc H C) :
    Fallible DispatchError (Runtime Acc H C) := do
  let owner ← Fallible.ofExcept DispatchError.ofOrigin
    (ensureRootOrPermissioned s.permissions origin (.SmartContractsPallet .UpdateABI))
  let tableIds := s.contractTables.lookup (source, address)
  let s := { s with
    contractStorage := s.contractStorage.erase (source, address)
    contractTables := s.contractTables.erase (source, address) }
  let s ← match tableIds with
    | some ids => dropContractTables ids.toList s
    | none => pure s
  pure (deposit s [.SmartContractRemoved owner source address])

variable (ddl : DdlEnv) (env : Env C H)

/-- `add_smartcontract`: the contract must be new; its tables and starting block are recorded
before the target schema and DDL are required, then its namespace and its tables are created. -/
def addSmartcontract (origin : Origin Acc) (contract : Contract) (tables : UpdateTableList) (s : Runtime Acc H C) :
    Fallible DispatchError (Runtime Acc H C) := do
  let owner ← Fallible.ofExcept DispatchError.ofOrigin
    (ensureRootOrPermissioned s.permissions origin (.SmartContractsPallet .UpdateABI))
  let details := contract.details
  Fallible.ensure (!decide ((details.source, details.address) ∈ s.contractStorage))
    (.SmartContracts .ExistingContractError)
  let s := { s with contractStorage := s.contractStorage.insert (details.source, details.address) contract }
  let tableIds ← Fallible.okOr (BoundedVec.ofList? (tables.toList.map fun t => (t.ident, t.tableType)))
    (.SmartContracts .TooManyTables)
  let s := { s with contractTables := s.contractTables.insert (details.source, details.address) tableIds }
  let s := recordStartingBlock s tableIds.toList details.startingBlock
  let targetSchema ← Fallible.okOr details.targetSchema (.SmartContracts .MissingTargetSchema)
  let ddlStatement ← Fallible.okOr details.ddlStatement (.SmartContracts .MissingDdlStatement)
  let s ← Tables.createNamespace ddl origin targetSchema 0 ddlStatement .SCI details.source s
  let s := deposit s [.SmartContractAdded owner details.source details.address]
  Tables.createTablesInner ddl env origin tables s

/-- The pallet's extrinsics. -/
inductive PalletCall where
  | removeSmartcontract (source : Source) (address : ContractAddress)
  | addSmartcontract (contract : Contract) (tables : UpdateTableList)

/-- Dispatching an extrinsic. -/
def PalletCall.run (origin : Origin Acc) : PalletCall → Runtime Acc H C → Fallible DispatchError (Runtime Acc H C)
  | .removeSmartcontract source address => SmartContracts.removeSmartcontract origin source address
  | .addSmartcontract contract tables => SmartContracts.addSmartcontract ddl env origin contract tables

end SmartContracts

end SxtNode
