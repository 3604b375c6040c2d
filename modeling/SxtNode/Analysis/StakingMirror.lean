import SxtNode.Model.SystemTables

/-!
# A stake row that is neither applied nor absent

`process_staking` sets the staker's free balance to the old balance plus the amount with
`force_set_balance`, then bonds the amount with `bond_extra` when the old free balance was not
zero. A free balance does not make an account a stash: when the staker has a free balance but no
staking ledger, `bond_extra` refuses it, and the row stops there. No storage layer is around the
row, so the new balance stays; only the bond is missing, and the failure is a
`MessageProcessingError` event. This holds for every implementation of the other pallets that
sets balances the way `force_set_balance` does and refuses `bond_extra` to an account without a
ledger.
-/

set_option autoImplicit false

namespace SxtNode

namespace SystemTables

theorem precision75_valid : 1 ≤ (75 : UInt8).toNat ∧ (75 : UInt8).toNat ≤ 75 := by
  decide

/-- The precision 75 of the stake amounts. -/
def precision75 : Precision := ⟨75, precision75_valid⟩

/-- An insert of one row into `SXT_SYSTEM_STAKING.STAKED`: the staker's bytes and the amount. -/
def stakeInsert (staker : List UInt8) (amount : BitVec 256) : OnChainTable where
  columns := [(Ident.new "STAKER", .VarBinary [staker]), (Ident.new "AMOUNT", .Decimal75 precision75 0 [amount])]
  keys_nodup := by simp [IndexMap.keys, Ident.new]
  ne_nil := by simp
  same_length := by simp [OnChainColumn.len]

/-- The one row of a stake insert. -/
def stakeRow (staker : List UInt8) (amount : BitVec 256) : Row :=
  [("STAKER", .Bytes staker), ("AMOUNT", .Decimal amount)]

/-- The stakes template finds both columns of a stake insert. -/
theorem tableToRequest_stakeInsert {upper : CaseMapping} (hupper : upper.AsciiLawful) (staker : List UInt8)
    (amount : BitVec 256) :
    tableToRequest upper (stakeInsert staker amount) stakedTableId =
      some ⟨.Staking .Stake, [⟨"STAKER", .Bytes, [.Bytes staker]⟩, ⟨"AMOUNT", .Decimal, [.Decimal amount]⟩],
        stakedTableId⟩ := by
  have hStaker : toUppercase upper "STAKER" = "STAKER" := by
    rw [toUppercase_of_ascii hupper (by decide)]
    decide
  have hAmount : toUppercase upper "AMOUNT" = "AMOUNT" := by
    rw [toUppercase_of_ascii hupper (by decide)]
    decide
  have htemplate : templateForIdentifier stakedTableId = some stakeTemplate := by
    decide +kernel
  simp only [tableToRequest, htemplate, Option.map_some, parseRequestWithTemplate, stakeTemplate, templateField,
    List.filterMap_cons, List.filterMap_nil, parseField, OnChainTable.getBytesByColumn,
    OnChainTable.getDecimalByColumn, OnChainTable.getByColumn, hStaker, hAmount]
  rfl

theorem rows_stakeRequest (staker : List UInt8) (amount : BitVec 256) :
    (⟨.Staking .Stake, [⟨"STAKER", .Bytes, [.Bytes staker]⟩, ⟨"AMOUNT", .Decimal, [.Decimal amount]⟩],
        stakedTableId⟩ : SystemRequest).rows = [stakeRow staker amount] := rfl

variable {Acc Keys σ : Type} [DecidableEq Acc] (env : StakingEnv Acc Keys σ)

/-- A stake row for a staker with a free balance and no staking ledger raises the free balance
by the amount, bonds nothing, and reports one error. -/
theorem stakeRow_funds_without_bond (hforce : env.ForceSetBalanceSets) (hstash : env.BondExtraNeedsStash)
    {upper : CaseMapping} (hupper : upper.AsciiLawful) (s : State Acc σ) {staker : List UInt8}
    {amount : BitVec 256} {stakerId : Acc} (hid : stakerAccountId env staker = .ok stakerId)
    (hfree : 0 < env.freeBalance s.external stakerId) (hledger : env.ledger s.external stakerId = none)
    (hed : env.existentialDeposit ≤ env.freeBalance s.external stakerId + amount.toNat)
    (hmax : env.freeBalance s.external stakerId + amount.toNat ≤ U128_MAX) :
    let s' := processSystemTable env upper stakedTableId (stakeInsert staker amount) s
    env.freeBalance s'.external stakerId = env.freeBalance s.external stakerId + amount.toNat ∧
      env.ledger s'.external stakerId = none ∧
      s'.lastProcessedUserNonce = s.lastProcessedUserNonce ∧
      ∃ e, s'.events = s.events ++ [.MessageProcessingError e] := by
  intro s'
  have hamount : min amount.toNat U128_MAX = amount.toNat := min_eq_left (by omega)
  have htotal : min (env.freeBalance s.external stakerId + amount.toNat) U128_MAX =
      env.freeBalance s.external stakerId + amount.toNat := min_eq_left hmax
  -- the balance is set and the ledgers are untouched; `bond_extra` then refuses the staker
  obtain ⟨x, hset, hfree', hledger'⟩ :=
    hforce stakerId (env.freeBalance s.external stakerId + amount.toNat) s.external
  have hnoLedger : env.ledger x stakerId = none := by
    rw [hledger']
    exact hledger
  obtain ⟨e, hbond⟩ := hstash stakerId amount.toNat x hnoLedger
  have hrow : processStakingRow env (stakeRow staker amount) s = .error e { s with external := x } := by
    rw [processStakingRow_eq env rfl rfl hid, hamount, htotal, EStateM.bind_apply_ok (callExternal_ok hset),
      if_pos hfree, callExternal_error hbond]
  have hs' : s' = deposit { s with external := x } [.MessageProcessingError e] := by
    simp only [s', processSystemTable, tableToRequest_stakeInsert hupper, processRequest, rows_stakeRequest,
      processRows_cons, hrow, emitForError, processRows]
  rw [hs']
  refine ⟨?_, hnoLedger, rfl, e, rfl⟩
  show env.freeBalance x stakerId = _
  rw [hfree', if_neg (by omega)]

/-! ## A toy runtime -/

/-- The free balances and staking ledgers of a runtime whose accounts are 32 bytes. -/
structure ToyStaking where
  free : Vector UInt8 32 → ℕ
  ledger : Vector UInt8 32 → Option StakingLedger

/-- `pallet_balances` and `pallet_staking` over `ToyStaking`, with an existential deposit of one:
`bond` opens a ledger, `bond_extra` adds to one, and the calls that do not matter here succeed
without effect. -/
def toyStakingEnv : StakingEnv (Vector UInt8 32) Unit ToyStaking where
  freeBalance x a := x.free a
  ledger x a := x.ledger a
  existentialDeposit := 1
  forceSetBalance a v x := .ok { x with free := Function.update x.free a (if v < 1 then 0 else v) }
  bond a v x := match x.ledger a with
    | none => .ok { x with ledger := Function.update x.ledger a (some ⟨v, 0⟩) }
    | some _ => .error (.Module "Staking" "AlreadyBonded")
  bondExtra a v x := match x.ledger a with
    | none => .error (.Module "Staking" "NotStash")
    | some l => .ok { x with ledger := Function.update x.ledger a (some { l with active := l.active + v }) }
  unbond _ _ x := .ok x
  rebond _ _ x := .ok x
  nominate _ _ x := .ok x
  setController _ x := .ok x
  alreadyPaired := .Module "Staking" "AlreadyPaired"
  validate _ _ x := .ok x
  chill _ x := .ok x
  setKeys _ _ x := .ok x
  decodeKeys _ := some ()
  convertAccountId bytes := .ok bytes
  parseAddressListJson _ := .error ()

theorem toyStakingEnv_forceSetBalanceSets : toyStakingEnv.ForceSetBalanceSets := by
  intro a v x
  exact ⟨_, rfl, by simp [toyStakingEnv], rfl⟩

theorem toyStakingEnv_bondExtraNeedsStash : toyStakingEnv.BondExtraNeedsStash := by
  intro a v x hnone
  simp only [toyStakingEnv] at hnone ⊢
  rw [hnone]
  exact ⟨_, rfl⟩

/-- Every account has a free balance of five and no ledger. -/
def toyState : State (Vector UInt8 32) ToyStaking := ⟨⟨fun _ => 5, fun _ => none⟩, ∅, []⟩

/-- The account of the twenty bytes `7`. -/
def toyStaker : Vector UInt8 32 := ⟨(List.replicate 12 (0 : UInt8) ++ List.replicate 20 7).toArray, by simp⟩

theorem stakerAccountId_toyStaker : stakerAccountId toyStakingEnv (List.replicate 20 7) = .ok toyStaker := by
  rw [stakerAccountId_eq]
  rfl

theorem toyStake_funds_without_bond :
    let s' := processSystemTable toyStakingEnv asciiCaseMapping stakedTableId
      (stakeInsert (List.replicate 20 7) 10) toyState
    toyStakingEnv.freeBalance s'.external toyStaker = toyStakingEnv.freeBalance toyState.external toyStaker + 10 ∧
      toyStakingEnv.ledger s'.external toyStaker = none ∧
      s'.lastProcessedUserNonce = toyState.lastProcessedUserNonce ∧
      ∃ e, s'.events = toyState.events ++ [.MessageProcessingError e] :=
  stakeRow_funds_without_bond toyStakingEnv toyStakingEnv_forceSetBalanceSets toyStakingEnv_bondExtraNeedsStash
    asciiCaseMapping_asciiLawful toyState stakerAccountId_toyStaker (by decide) rfl (by decide) (by decide)

end SystemTables

end SxtNode
