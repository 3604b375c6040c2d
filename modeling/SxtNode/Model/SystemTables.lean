import SxtNode.Model.Runtime
import SxtNode.Model.OnChainTable
import SxtNode.Lib.StorageMap
import SxtNode.Lib.Hex

/-!
# The system tables pallet (`pallet_system_tables`)

When `pallet_indexing` reaches a quorum on an insert into a table of `SXT_SYSTEM_STAKING`, it
hands the table to `process_system_table`. The table's identifier picks a request template
(messages, stakes, nominations, unstaking started or cancelled); the template's columns are read
from the table and cut into rows, and each row is processed on its own: it calls
`pallet_balances`, `pallet_staking` and `pallet_session` in turn, returning early at the first
call that fails. There is no storage layer around a row: what the calls before a failure did
stays, and the failure only becomes a `MessageProcessingError` event (`emit_for_error`).

The other pallets are third-party: `StakingEnv` gives their calls over their storage `σ`. Each
call is transactional on its own, so a call that fails changes nothing, and the row monad
`RowM` is `EStateM`, whose errors keep the state they are raised in. A row reads an account from
twenty bytes: `eth_address_to_substrate_account_id(&hex::encode(bytes))` decodes the hex text
back to the bytes, which are padded with twelve zeros in front and converted to the runtime's
account (`stakerAccountId`, `stakerAccountId_eq`).
-/

set_option autoImplicit false

namespace SxtNode

namespace SystemTables

/-! ## Requests -/

/-- `StakingSystemRequest`. -/
inductive StakingSystemRequest where
  | Stake
  | Nominate
  | UnstakeInitiated
  | UnstakeCancelled
deriving DecidableEq, Repr

/-- `SystemRequestType`. -/
inductive SystemRequestType where
  | Message
  | Staking (request : StakingSystemRequest)
  | ZkPay
deriving DecidableEq, Repr

/-- `SystemFieldType`. -/
inductive SystemFieldType where
  | Varchar
  | Bytes
  | Decimal
deriving DecidableEq, Repr

/-- `SystemFieldValue`; a decimal is a `U256`. -/
inductive SystemFieldValue where
  | Varchar (value : String)
  | Bytes (value : List UInt8)
  | Decimal (value : BitVec 256)
deriving DecidableEq, Repr, Inhabited

/-- `SystemTableField`: a column of a request. -/
structure SystemTableField where
  name : String
  valueType : SystemFieldType
  values : List SystemFieldValue
deriving DecidableEq, Repr

/-- `SystemRequest`. -/
structure SystemRequest where
  requestType : SystemRequestType
  fields : List SystemTableField
  tableId : TableIdentifier
deriving DecidableEq

/-- A row, `BTreeMap<String, SystemFieldValue>`, as the pairs it was collected from. -/
abbrev Row := List (String × SystemFieldValue)

/-- `BTreeMap::get`: collecting keeps the last value of a name. -/
def Row.get (row : Row) (name : String) : Option SystemFieldValue :=
  (row.reverse.find? (·.1 = name)).map Prod.snd

/-- `SystemRequest::rows`: row `i` holds value `i` of every field, for `i` below the length of
the shortest field (none when there is no field). -/
def SystemRequest.rows (request : SystemRequest) : List Row :=
  let minLen := ((request.fields.map fun field => field.values.length).min?).getD 0
  -- `i` is in range for every field
  (List.range minLen).map fun i => request.fields.map fun field => (field.name, field.values.getD i default)

/-- A field of a template: its name and type, with no values. -/
def templateField (name : String) (valueType : SystemFieldType) : SystemTableField :=
  ⟨name, valueType, []⟩

theorem length_systemStakingNamespace : systemStakingNamespace.length ≤ IDENT_LENGTH := by
  decide +kernel

/-- `TableIdentifier::from_str_unchecked(name, "SXT_SYSTEM_STAKING")` for the template names,
which are upper case already. -/
def systemTableId (name : String) (h : (utf8Bytes name).length ≤ IDENT_LENGTH) : TableIdentifier :=
  ⟨⟨utf8Bytes name, h⟩, ⟨systemStakingNamespace, length_systemStakingNamespace⟩⟩

/-- `SXT_SYSTEM_STAKING.MESSAGE`. -/
def messageTableId : TableIdentifier := systemTableId "MESSAGE" (by decide)

/-- `SXT_SYSTEM_STAKING.STAKED`. -/
def stakedTableId : TableIdentifier := systemTableId "STAKED" (by decide)

/-- `SXT_SYSTEM_STAKING.NOMINATED`. -/
def nominatedTableId : TableIdentifier := systemTableId "NOMINATED" (by decide)

/-- `SXT_SYSTEM_STAKING.UNSTAKEINITIATED`. -/
def unstakeInitiatedTableId : TableIdentifier := systemTableId "UNSTAKEINITIATED" (by decide)

/-- `SXT_SYSTEM_STAKING.UNSTAKECANCELLED`. -/
def unstakeCancelledTableId : TableIdentifier := systemTableId "UNSTAKECANCELLED" (by decide)

/-- The template of the stakes table. -/
def stakeTemplate : SystemRequest :=
  ⟨.Staking .Stake, [templateField "STAKER" .Bytes, templateField "AMOUNT" .Decimal], stakedTableId⟩

/-- The templates of the system tables (`get_system_templates`). -/
def systemTemplates : List SystemRequest :=
  [⟨.Message, [templateField "SENDER" .Bytes, templateField "BODY" .Bytes, templateField "NONCE" .Decimal],
      messageTableId⟩,
    stakeTemplate,
    ⟨.Staking .Nominate, [templateField "NOMINATOR" .Bytes, templateField "NODESED25519PUBKEYS" .Varchar],
      nominatedTableId⟩,
    ⟨.Staking .UnstakeInitiated, [templateField "STAKER" .Bytes], unstakeInitiatedTableId⟩,
    ⟨.Staking .UnstakeCancelled, [templateField "STAKER" .Bytes], unstakeCancelledTableId⟩]

/-- `template_for_identifier`: the first template of the identifier. -/
def templateForIdentifier (tableIdentifier : TableIdentifier) : Option SystemRequest :=
  systemTemplates.find? (·.tableId = tableIdentifier)

/-- The column of a template field read from the table, if the table has a column of its name
and type. -/
def parseField (upper : CaseMapping) (ocTable : OnChainTable) (f : SystemTableField) : Option SystemTableField :=
  match f.valueType with
  | .Varchar => (ocTable.getVarcharsByColumn upper f.name).map fun data => ⟨f.name, .Varchar, data.map .Varchar⟩
  | .Decimal => (ocTable.getDecimalByColumn upper f.name).map fun data => ⟨f.name, .Decimal, data.map .Decimal⟩
  | .Bytes => (ocTable.getBytesByColumn upper f.name).map fun data => ⟨f.name, .Bytes, data.map .Bytes⟩

/-- `parse_request_with_template`: the template's fields that the table has. -/
def parseRequestWithTemplate (upper : CaseMapping) (ocTable : OnChainTable) (template : SystemRequest) :
    SystemRequest :=
  ⟨template.requestType, template.fields.filterMap (parseField upper ocTable), template.tableId⟩

/-- `table_to_request`. -/
def tableToRequest (upper : CaseMapping) (ocTable : OnChainTable) (tableIdentifier : TableIdentifier) :
    Option SystemRequest :=
  (templateForIdentifier tableIdentifier).map (parseRequestWithTemplate upper ocTable)

/-! ## The other pallets -/

/-- `pallet_staking::StakingLedger` of a stash, as the specifications of the calls read it: the
bonded amount that is active and the amount that is unlocking. -/
structure StakingLedger where
  active : ℕ
  unlocking : ℕ
deriving DecidableEq, Repr

/-- `ValidatorPrefs`; the commission in parts per billion. -/
structure ValidatorPrefs where
  commission : ℕ
  blocked : Bool
deriving DecidableEq, Repr

/-- The calls of `pallet_balances`, `pallet_staking` and `pallet_session` that the pallet makes,
over their storage `σ`, with the runtime's decoders; each call returns the storage after it or
its error. Balances are `u128`. -/
structure StakingEnv (Acc Keys σ : Type) where
  /-- `pallet_balances::free_balance`. -/
  freeBalance : σ → Acc → ℕ
  /-- `pallet_staking::Ledger` of a stash, read by the specifications below, not by the pallet. -/
  ledger : σ → Acc → Option StakingLedger
  /-- `ExistentialDeposit`. -/
  existentialDeposit : ℕ
  /-- `force_set_balance` from the root origin. -/
  forceSetBalance : Acc → ℕ → σ → Except DispatchError σ
  /-- `bond` with the reward destination `Staked`. -/
  bond : Acc → ℕ → σ → Except DispatchError σ
  bondExtra : Acc → ℕ → σ → Except DispatchError σ
  unbond : Acc → ℕ → σ → Except DispatchError σ
  rebond : Acc → ℕ → σ → Except DispatchError σ
  nominate : Acc → List Acc → σ → Except DispatchError σ
  setController : Acc → σ → Except DispatchError σ
  /-- `pallet_staking::Error::AlreadyPaired` as a dispatch error. -/
  alreadyPaired : DispatchError
  validate : Acc → ValidatorPrefs → σ → Except DispatchError σ
  chill : Acc → σ → Except DispatchError σ
  /-- `pallet_session::set_keys` with an empty proof. -/
  setKeys : Acc → Keys → σ → Except DispatchError σ
  /-- `T::Keys::decode`. -/
  decodeKeys : List UInt8 → Option Keys
  /-- `convert_account_id`: the runtime's account of 32 bytes. -/
  convertAccountId : Vector UInt8 32 → Except DispatchError Acc
  /-- `parse_address_list_json`: the nominated accounts, each parsed or not. -/
  parseAddressListJson : String → Except Unit (List (Except DispatchError Acc))

/-- `force_set_balance` from the root origin sets the free balance, to zero below the existential
deposit, and leaves the staking ledgers alone. -/
def StakingEnv.ForceSetBalanceSets {Acc Keys σ : Type} (env : StakingEnv Acc Keys σ) : Prop :=
  ∀ a v x, ∃ x', env.forceSetBalance a v x = .ok x' ∧
    env.freeBalance x' a = (if v < env.existentialDeposit then 0 else v) ∧ env.ledger x' = env.ledger x

/-- `bond_extra` is for stashes: an account without a ledger is refused (`NotStash`). -/
def StakingEnv.BondExtraNeedsStash {Acc Keys σ : Type} (env : StakingEnv Acc Keys σ) : Prop :=
  ∀ a v x, env.ledger x a = none → ∃ e, env.bondExtra a v x = .error e

/-! ## The pallet -/

/-- `pallet_system_tables::Event`, with the event no modelled function deposits left out. -/
inductive Event (Acc : Type) where
  | MessageProcessingError (error : DispatchError)
  | ValidatorForceChilled (validator : Acc)
deriving DecidableEq, Repr

/-- The storage of the other pallets, `LastProcessedUserNonce` (a `U256` per account), and the
events deposited. -/
structure State (Acc σ : Type) [DecidableEq Acc] where
  external : σ
  lastProcessedUserNonce : StorageMap Acc ℕ
  events : List (Event Acc)

variable {Acc Keys σ : Type} [DecidableEq Acc] (env : StakingEnv Acc Keys σ)

/-- A row's computation: an error keeps the state it is raised in. -/
abbrev RowM (Acc σ : Type) [DecidableEq Acc] := EStateM DispatchError (State Acc σ)

/-- `Self::deposit_event`. -/
def deposit (s : State Acc σ) (events : List (Event Acc)) : State Acc σ :=
  { s with events := s.events ++ events }

/-- A call of another pallet. It is transactional: when it fails the state is as before it. -/
def callExternal (f : σ → Except DispatchError σ) : RowM Acc σ Unit := fun s =>
  match f s.external with
  | .ok external => .ok () { s with external := external }
  | .error e => .error e s

/-- A computation of no storage, as `?` uses it. -/
def ofExcept {α : Type} (x : Except DispatchError α) : RowM Acc σ α := fun s =>
  match x with
  | .ok a => .ok a s
  | .error e => .error e s

/-- `eth_address_to_substrate_account_id`: the text after any leading `0x` decodes as hex to
twenty bytes, which are padded in front with twelve zeros and converted to the runtime's account. -/
def ethAddressToSubstrateAccountId (ethAddrHex : String) : Except DispatchError Acc :=
  match Hex.decodeChars (ethAddrHex.toList.trimStartMatches ['0', 'x']) with
  | none => .error (.Other "Invalid hex address")
  | some rawBytes =>
    if h : rawBytes.length = 20 then env.convertAccountId ⟨(List.replicate 12 0 ++ rawBytes).toArray, by simp [h]⟩
    else .error (.Other "Expected 20-byte Ethereum address")

/-- `eth_address_to_substrate_account_id(&hex::encode(bytes))`: the account a row reads from the
bytes of an address. -/
def stakerAccountId (bytes : List UInt8) : Except DispatchError Acc :=
  ethAddressToSubstrateAccountId env (Hex.encode bytes)

omit [DecidableEq Acc] in
/-- The hex text of some bytes decodes to the bytes, so a row's account is its twenty bytes padded
in front with twelve zeros. -/
theorem stakerAccountId_eq (bytes : List UInt8) :
    stakerAccountId env bytes =
      if h : bytes.length = 20 then env.convertAccountId ⟨(List.replicate 12 0 ++ bytes).toArray, by simp [h]⟩
      else .error (.Other "Expected 20-byte Ethereum address") := by
  rw [stakerAccountId, ethAddressToSubstrateAccountId, Hex.trimStartMatches_encode, Hex.decodeChars_encodeChars]

/-- `u128::MAX`. -/
def U128_MAX : ℕ := 2 ^ 128 - 1

/-- `u64::MAX`. -/
def U64_MAX : ℕ := 2 ^ 64 - 1

/-- A row of `process_staking`: the staker's free balance is raised by the amount, then the
amount is bonded, with `bond_extra` when the staker had a free balance and `bond` otherwise. -/
def processStakingRow (row : Row) : RowM Acc σ Unit :=
  match row.get "STAKER", row.get "AMOUNT" with
  | some (.Bytes stakerBytes), some (.Decimal amount) => do
    let stakerId ← ofExcept (stakerAccountId env stakerBytes)
    let stakeAmount := min amount.toNat U128_MAX
    let balance := env.freeBalance (← get).external stakerId
    let newTotalBalance := min (balance + stakeAmount) U128_MAX
    callExternal (env.forceSetBalance stakerId newTotalBalance)
    if balance > 0 then callExternal (env.bondExtra stakerId stakeAmount)
    else callExternal (env.bond stakerId stakeAmount)
  | _, _ => throw (.SystemTables .MissingExpectedField)

/-- A row of `process_nominating`: each nomination that does not parse is reported on its own;
the parsed ones are nominated, unless there are none. -/
def processNominatingRow (row : Row) : RowM Acc σ Unit :=
  match row.get "NOMINATOR", row.get "NODESED25519PUBKEYS" with
  | some (.Bytes nominator), some (.Varchar nodes) => do
    let parsed ← ofExcept ((env.parseAddressListJson nodes).mapError fun _ => .SystemTables .ErrorParsingNominations)
    let nominations := parsed.filterMap fun r => r.toOption
    let errors := parsed.filterMap fun r => match r with
      | .error e => some e
      | .ok _ => none
    modify fun s => deposit s (errors.map .MessageProcessingError)
    if nominations.isEmpty then throw (.SystemTables .EmptyNominationSet)
    else do
      let nominatorId ← ofExcept (stakerAccountId env nominator)
      callExternal (env.nominate nominatorId nominations)
  | _, _ => throw (.SystemTables .MissingExpectedField)

/-- The row of `process_unstake_initiated` and `process_unstake_cancelled`: `call` with the
staker's free balance, saturated to a `u64`. -/
def processUnstakeRow (call : Acc → ℕ → σ → Except DispatchError σ) (row : Row) : RowM Acc σ Unit :=
  match row.get "STAKER" with
  | some (.Bytes staker) => do
    let stakerId ← ofExcept (stakerAccountId env staker)
    let rawBalance := env.freeBalance (← get).external stakerId
    let stakingBalance := min rawBalance U64_MAX
    callExternal (call stakerId stakingBalance)
  | _ => throw (.SystemTables .MissingExpectedField)

/-- A row of `process_unstake_initiated`: `unbond`. -/
def processUnstakeInitiatedRow (row : Row) : RowM Acc σ Unit := processUnstakeRow env env.unbond row

/-- A row of `process_unstake_cancelled`: `rebond`. -/
def processUnstakeCancelledRow (row : Row) : RowM Acc σ Unit := processUnstakeRow env env.rebond row

/-- `messages::handle_message`: the session keys are decoded, the sender is paired as its own
controller (being paired already is fine), declared a validator, and given the keys. -/
def handleMessage (sender : Acc) (messageBytes : List UInt8) : RowM Acc σ Unit :=
  match env.decodeKeys messageBytes with
  | none => throw (.SystemTables .InvalidSessionKeys)
  | some keys => do
    let prefs : ValidatorPrefs := ⟨100000000, false⟩
    callExternal fun x => match env.setController sender x with
      | .ok x' => .ok x'
      | .error e => if e = env.alreadyPaired then .ok x else .error e
    callExternal (env.validate sender prefs)
    callExternal (env.setKeys sender keys)

/-- The nonce `process_evm_message` expects of an account: one past the last it processed.
The source adds in `U256`, whose `+` panics at `U256::MAX`. Here the sum is in `ℕ`, so a
stored `U256::MAX` expects `2^256`: no 256-bit nonce reaches it, and the row fails as late
where the source aborts. A stored nonce is a `u64` from `set_last_nonce` or one past the last
stored, so one account reaches `U256::MAX` only after more than `2^255` accepted messages. -/
def expectedNonce (s : State Acc σ) (sender : Acc) : ℕ :=
  (s.lastProcessedUserNonce.lookup sender).getD 0 + 1

/-- A row of `process_evm_message`: a message with the expected nonce advances the sender's nonce,
then is handled. -/
def processEvmMessageRow (row : Row) : RowM Acc σ Unit :=
  match row.get "SENDER", row.get "BODY", row.get "NONCE" with
  | some (.Bytes sender), some (.Bytes body), some (.Decimal nonce) => do
    let ethSender ← ofExcept (stakerAccountId env sender)
    let expected := expectedNonce (← get) ethSender
    if nonce.toNat < expected then throw (.SystemTables .LateNonce)
    else if nonce.toNat > expected then throw (.SystemTables .FutureNonce)
    else do
      modify fun s => { s with lastProcessedUserNonce := s.lastProcessedUserNonce.insert ethSender nonce.toNat }
      handleMessage env ethSender body
  | _, _, _ => throw (.SystemTables .MissingExpectedField)

/-- `emit_for_error` after a row: an error becomes a `MessageProcessingError` event, and the
state the row reached stays. -/
def emitForError : EStateM.Result DispatchError (State Acc σ) Unit → State Acc σ
  | .ok () s => s
  | .error e s => deposit s [.MessageProcessingError e]

/-- The rows of a request, one after the other. -/
def processRows (processRow : Row → RowM Acc σ Unit) : List Row → State Acc σ → State Acc σ
  | [], s => s
  | row :: rows, s => processRows processRow rows (emitForError (processRow row s))

/-- `process_request`; it returns `Ok(())` in every case. -/
def processRequest (request : SystemRequest) (s : State Acc σ) : State Acc σ :=
  match request.requestType with
  | .Message => processRows (processEvmMessageRow env) request.rows s
  | .Staking .Stake => processRows (processStakingRow env) request.rows s
  | .Staking .Nominate => processRows (processNominatingRow env) request.rows s
  | .Staking .UnstakeCancelled => processRows (processUnstakeCancelledRow env) request.rows s
  | .Staking .UnstakeInitiated => processRows (processUnstakeInitiatedRow env) request.rows s
  | .ZkPay => s

/-- `process_system_table`; it returns `Ok(())` in every case, so `pallet_indexing` always
deposits `SystemTableUpdate` after it. -/
def processSystemTable (upper : CaseMapping) (tableId : TableIdentifier) (ocTable : OnChainTable)
    (s : State Acc σ) : State Acc σ :=
  match tableToRequest upper ocTable tableId with
  | none => s
  | some request => processRequest env request s

/-- `ChillingOffenceHandler::on_offence`: each offender is reported and chilled; the result of
`chill` is ignored. -/
def onOffence (offenders : List Acc) (s : State Acc σ) : State Acc σ :=
  offenders.foldl (fun s validator =>
    let s := deposit s [.ValidatorForceChilled validator]
    match env.chill validator s.external with
    | .ok external => { s with external := external }
    | .error _ => s) s

/-- `set_last_nonce`: root sets the last nonce processed for an Ethereum wallet. -/
def setLastNonce (origin : Origin Acc) (ethWallet : String) (newNonce : UInt64) (s : State Acc σ) :
    Fallible DispatchError (State Acc σ) := do
  Fallible.ofExcept DispatchError.ofOrigin (ensureRoot origin)
  let ethSender ← Fallible.ofExcept id (ethAddressToSubstrateAccountId env ethWallet)
  pure { s with lastProcessedUserNonce := s.lastProcessedUserNonce.insert ethSender newNonce.toNat }

/-- One step of the runtime as the pallet sees it, root's calls apart: an insert into a table
that `pallet_indexing` finalized, an offence report, `set_last_nonce` dispatched from an origin
that is not root, or anything else the runtime does, which leaves the nonces alone. -/
inductive Step : State Acc σ → State Acc σ → Prop where
  | systemTable (upper : CaseMapping) (tableId : TableIdentifier) (ocTable : OnChainTable) (s : State Acc σ) :
      Step s (processSystemTable env upper tableId ocTable s)
  | offence (offenders : List Acc) (s : State Acc σ) : Step s (onOffence env offenders s)
  | setLastNonce (origin : Origin Acc) (ethWallet : String) (newNonce : UInt64) (s : State Acc σ) :
      origin ≠ .Root → Step s (dispatch (setLastNonce env origin ethWallet newNonce) s)
  | other (s s' : State Acc σ) : s'.lastProcessedUserNonce = s.lastProcessedUserNonce → Step s s'

/-! ## What a row does -/

theorem callExternal_ok {f : σ → Except DispatchError σ} {s : State Acc σ} {x : σ} (h : f s.external = .ok x) :
    callExternal f s = .ok () { s with external := x } := by
  simp only [callExternal, h]

theorem callExternal_error {f : σ → Except DispatchError σ} {s : State Acc σ} {e : DispatchError}
    (h : f s.external = .error e) : callExternal f s = .error e s := by
  simp only [callExternal, h]

theorem ofExcept_ok {α : Type} {x : Except DispatchError α} {a : α} (h : x = .ok a) (s : State Acc σ) :
    (ofExcept x : RowM Acc σ α) s = .ok a s := by
  subst h
  rfl

theorem ofExcept_error {α : Type} {x : Except DispatchError α} {e : DispatchError} (h : x = .error e)
    (s : State Acc σ) : (ofExcept x : RowM Acc σ α) s = .error e s := by
  subst h
  rfl

/-- A stake row whose fields are there and whose staker's account is read sets the staker's
balance, then bonds. -/
theorem processStakingRow_eq {row : Row} {stakerBytes : List UInt8} {amount : BitVec 256} {stakerId : Acc}
    (hstaker : row.get "STAKER" = some (.Bytes stakerBytes)) (hamount : row.get "AMOUNT" = some (.Decimal amount))
    (hid : stakerAccountId env stakerBytes = .ok stakerId) (s : State Acc σ) :
    processStakingRow env row s =
      (callExternal (env.forceSetBalance stakerId
          (min (env.freeBalance s.external stakerId + min amount.toNat U128_MAX) U128_MAX)) >>= fun _ =>
        if env.freeBalance s.external stakerId > 0 then
          callExternal (env.bondExtra stakerId (min amount.toNat U128_MAX))
        else callExternal (env.bond stakerId (min amount.toNat U128_MAX))) s := by
  simp only [processStakingRow, hstaker, hamount]
  rw [EStateM.bind_apply_ok (ofExcept_ok hid s)]
  rfl

/-- A message row whose fields are there and whose sender's account is read checks the nonce
against the expected one, then records it and handles the message. -/
theorem processEvmMessageRow_eq {row : Row} {sender body : List UInt8} {nonce : BitVec 256} {ethSender : Acc}
    (hsender : row.get "SENDER" = some (.Bytes sender)) (hbody : row.get "BODY" = some (.Bytes body))
    (hnonce : row.get "NONCE" = some (.Decimal nonce)) (hid : stakerAccountId env sender = .ok ethSender)
    (s : State Acc σ) :
    processEvmMessageRow env row s =
      if nonce.toNat < expectedNonce s ethSender then .error (.SystemTables .LateNonce) s
      else if nonce.toNat > expectedNonce s ethSender then .error (.SystemTables .FutureNonce) s
      else handleMessage env ethSender body
        { s with lastProcessedUserNonce := s.lastProcessedUserNonce.insert ethSender nonce.toNat } := by
  simp only [processEvmMessageRow, hsender, hbody, hnonce]
  rw [EStateM.bind_apply_ok (ofExcept_ok hid s), EStateM.get_bind_apply]
  split_ifs <;> rfl

/-- The rows after the first start from the state the first left, with its error reported. -/
theorem processRows_cons (processRow : Row → RowM Acc σ Unit) (row : Row) (rows : List Row) (s : State Acc σ) :
    processRows processRow (row :: rows) s = processRows processRow rows (emitForError (processRow row s)) := rfl

end SystemTables

end SxtNode
