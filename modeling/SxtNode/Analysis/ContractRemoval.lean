import SxtNode.Analysis.TableRegistry

/-!
# Removing a smart contract

`remove_smartcontract` drops every table recorded for a contract and fails, rolling back, at
the first one that is no longer registered. Nothing keeps the record in step with the tables:
`drop_table` drops a contract's table and leaves the record as it was. On a new chain, adding a
contract with one table and then dropping that table leaves a contract that cannot be removed.
-/

set_option autoImplicit false

namespace SxtNode

namespace SmartContracts

variable {Acc : Type} [LinearOrder Acc] {H C : Type} (ddl : DdlEnv) (env : Env C H)

/-- The calls that write contracts and tables. -/
inductive Call (Acc : Type) where
  | addSmartcontract (origin : Origin Acc) (contract : Contract) (tables : UpdateTableList)
  | removeSmartcontract (origin : Origin Acc) (source : Source) (address : ContractAddress)
  | createTables (origin : Origin Acc) (tables : UpdateTableList)
  | dropTable (origin : Origin Acc) (tableType : TableType) (ident : TableIdentifier) (source : Source)

def Call.run : Call Acc → Runtime Acc H C → Fallible DispatchError (Runtime Acc H C)
  | .addSmartcontract origin contract tables => SmartContracts.addSmartcontract ddl env origin contract tables
  | .removeSmartcontract origin source address => SmartContracts.removeSmartcontract origin source address
  | .createTables origin tables => Tables.createTables ddl env origin tables
  | .dropTable origin tableType ident source => Tables.dropTable origin tableType ident source

/-- One dispatched call. -/
inductive Step : Runtime Acc H C → Runtime Acc H C → Prop where
  | call (c : Call Acc) (s : Runtime Acc H C) : Step s (dispatch (c.run ddl env) s)

/-- A new chain. -/
def Init (s : Runtime Acc H C) : Prop := s = Runtime.genesis

/-! ## A contract whose table was dropped -/

/-- The statement parser of `NS.T`, with namespace UUIDs generated as `n1`. -/
def ddlContract : DdlEnv :=
  { Tables.ddlNST with generateNamespaceUuid := fun _ _ => some ⟨utf8Bytes "n1", by decide⟩ }

/-- The address `[1]`. -/
def addressOne : ContractAddress := ⟨[1], by simp⟩

/-- A contract on Ethereum whose tables live in the namespace `NS`. -/
def contractNS : Contract :=
  .Normal ⟨.Ethereum, addressOne, none, some Tables.identNST.namespace_, some (Tables.createStatementOf "CREATE SCHEMA NS")⟩

/-- Root adds the contract with the table `NS.T`. -/
def addedRun : Runtime ℕ (List UInt8 × Option UInt64) MetaCommitment :=
  dispatch (addSmartcontract ddlContract Indexing.sampleEnv .Root contractNS (Tables.tablesNST ⟨false, true⟩))
    Runtime.genesis

/-- Root then drops `NS.T`. -/
def droppedRun : Runtime ℕ (List UInt8 × Option UInt64) MetaCommitment :=
  dispatch (Tables.dropTable .Root .Community Tables.identNST .Ethereum) addedRun

/-- Both calls succeed, the contract is still stored, and removing it fails on its dropped
table. -/
theorem droppedTableRun_blocks_removal :
    Reachable Init (Step ddlContract Indexing.sampleEnv) droppedRun ∧
    addSmartcontract ddlContract Indexing.sampleEnv .Root contractNS (Tables.tablesNST ⟨false, true⟩)
      Runtime.genesis = .ok addedRun ∧
    Tables.dropTable .Root .Community Tables.identNST .Ethereum addedRun = .ok droppedRun ∧
    (Source.Ethereum, addressOne) ∈ droppedRun.contractStorage ∧
    removeSmartcontract .Root .Ethereum addressOne droppedRun = .error (.error (.Tables .TableNotFound)) := by
  have hgenesis : Reachable Init (Step ddlContract Indexing.sampleEnv)
      (Runtime.genesis : Runtime ℕ (List UInt8 × Option UInt64) MetaCommitment) := Reachable.of_init rfl
  have hadded : Reachable Init (Step ddlContract Indexing.sampleEnv) addedRun :=
    hgenesis.tail (Step.call (.addSmartcontract .Root contractNS (Tables.tablesNST ⟨false, true⟩)) _)
  have hreach : Reachable Init (Step ddlContract Indexing.sampleEnv) droppedRun :=
    hadded.tail (Step.call (.dropTable .Root .Community Tables.identNST .Ethereum) _)
  have hadd : addSmartcontract ddlContract Indexing.sampleEnv .Root contractNS (Tables.tablesNST ⟨false, true⟩)
      Runtime.genesis = .ok addedRun := eq_ok_dispatch (by decide +kernel)
  have hdrop : Tables.dropTable .Root .Community Tables.identNST .Ethereum addedRun = .ok droppedRun :=
    eq_ok_dispatch (by decide +kernel)
  exact ⟨hreach, hadd, hdrop, by decide +kernel, Fallible.eq_error_of_fault? (by decide +kernel)⟩

end SmartContracts

end SxtNode
