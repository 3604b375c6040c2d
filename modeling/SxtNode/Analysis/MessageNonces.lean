import SxtNode.Model.SystemTables
import SxtNode.Analysis.StakingMirror

/-!
# A message is processed once

`process_evm_message` accepts a message only when its nonce is one past the last it processed
for the sender. It records that nonce before it handles the message, so the nonce stays
recorded even when handling fails. No other row, offence report or call writes the nonces,
except root's `set_last_nonce`. So along every run without root's calls, no account's nonce goes
down (`noncesLe_run`). Once a message has been accepted, every later copy of it is refused as
late, whatever ran in between (`message_refused_after_acceptance`). Root's `set_last_nonce` sets a
sender's nonce to any value, lower ones included, which is why its calls are not steps of these
runs.
-/

set_option autoImplicit false

namespace SxtNode

namespace SystemTables

variable {Acc Keys σ : Type} [DecidableEq Acc] (env : StakingEnv Acc Keys σ)

/-! ## Two relations between states -/

/-- The second state has the nonces of the first. -/
def SameNonces (s s' : State Acc σ) : Prop := s'.lastProcessedUserNonce = s.lastProcessedUserNonce

/-- No account expects a lower nonce in the second state. -/
def NoncesLe (s s' : State Acc σ) : Prop := ∀ a, expectedNonce s a ≤ expectedNonce s' a

instance : IsPreorder (State Acc σ) SameNonces where
  refl _ := rfl
  trans _ _ _ h₁ h₂ := h₂.trans h₁

instance : IsPreorder (State Acc σ) NoncesLe where
  refl _ _ := le_rfl
  trans _ _ _ h₁ h₂ a := (h₁ a).trans (h₂ a)

theorem SameNonces.noncesLe {s s' : State Acc σ} (h : SameNonces s s') : NoncesLe s s' := by
  intro a
  rw [expectedNonce, expectedNonce, h]

theorem expectedNonce_insert_self (s : State Acc σ) (a : Acc) (n : ℕ) :
    expectedNonce { s with lastProcessedUserNonce := s.lastProcessedUserNonce.insert a n } a = n + 1 := by
  simp [expectedNonce, AList.lookup_insert]

theorem expectedNonce_insert_ne (s : State Acc σ) {a b : Acc} (n : ℕ) (h : b ≠ a) :
    expectedNonce { s with lastProcessedUserNonce := s.lastProcessedUserNonce.insert a n } b =
      expectedNonce s b := by
  simp [expectedNonce, AList.lookup_insert_ne h]

/-! ## What each row does to the nonces -/

theorem callExternal_keeps (f : σ → Except DispatchError σ) :
    EStateM.Keeps SameNonces (callExternal f : RowM Acc σ Unit) := by
  intro s
  unfold callExternal
  split <;> rfl

theorem ofExcept_keeps {α : Type} {R : State Acc σ → State Acc σ → Prop} [Std.Refl R]
    (x : Except DispatchError α) : EStateM.Keeps R (ofExcept x : RowM Acc σ α) := by
  intro s
  cases x <;> exact refl_of R s

theorem handleMessage_keeps (sender : Acc) (messageBytes : List UInt8) :
    EStateM.Keeps SameNonces (handleMessage env sender messageBytes) := by
  unfold handleMessage
  split
  · exact EStateM.Keeps.throw _
  · exact (callExternal_keeps _).bind fun _ => (callExternal_keeps _).bind fun _ => callExternal_keeps _

theorem processStakingRow_keeps (row : Row) : EStateM.Keeps SameNonces (processStakingRow env row) := by
  unfold processStakingRow
  split
  · refine (ofExcept_keeps _).bind fun stakerId => EStateM.Keeps.get.bind fun s => ?_
    refine (callExternal_keeps _).bind fun _ => ?_
    split
    · exact callExternal_keeps _
    · exact callExternal_keeps _
  · exact EStateM.Keeps.throw _

theorem processNominatingRow_keeps (row : Row) : EStateM.Keeps SameNonces (processNominatingRow env row) := by
  unfold processNominatingRow
  split
  · refine (ofExcept_keeps _).bind fun parsed => ?_
    -- the parse errors are deposited as events, which the nonces do not see
    refine (EStateM.Keeps.modify fun s => ?_).bind fun _ => ?_
    · rfl
    split
    · exact EStateM.Keeps.throw _
    · exact (ofExcept_keeps _).bind fun _ => callExternal_keeps _
  · exact EStateM.Keeps.throw _

theorem processUnstakeRow_keeps (call : Acc → ℕ → σ → Except DispatchError σ) (row : Row) :
    EStateM.Keeps SameNonces (processUnstakeRow env call row) := by
  unfold processUnstakeRow
  split
  · exact (ofExcept_keeps _).bind fun _ => EStateM.Keeps.get.bind fun _ => callExternal_keeps _
  · exact EStateM.Keeps.throw _

/-- What a message row can do: fail in the state it started in, or take the message whose nonce
is the sender's expected one, record that nonce and handle the message. -/
theorem processEvmMessageRow_cases (row : Row) (s : State Acc σ) :
    (∃ e, processEvmMessageRow env row s = .error e s) ∨
      ∃ sender body nonce ethSender, row.get "SENDER" = some (.Bytes sender) ∧
        row.get "BODY" = some (.Bytes body) ∧ row.get "NONCE" = some (.Decimal nonce) ∧
        stakerAccountId env sender = .ok ethSender ∧ nonce.toNat = expectedNonce s ethSender ∧
        processEvmMessageRow env row s = handleMessage env ethSender body
          { s with lastProcessedUserNonce := s.lastProcessedUserNonce.insert ethSender nonce.toNat } := by
  by_cases hfields : ∃ sender body nonce, row.get "SENDER" = some (.Bytes sender) ∧
      row.get "BODY" = some (.Bytes body) ∧ row.get "NONCE" = some (.Decimal nonce)
  · obtain ⟨sender, body, nonce, hsender, hbody, hnonce⟩ := hfields
    cases hid : stakerAccountId env sender with
    | error e =>
      left
      refine ⟨e, ?_⟩
      simp only [processEvmMessageRow, hsender, hbody, hnonce]
      exact EStateM.bind_apply_error (ofExcept_error hid s)
    | ok ethSender =>
      rw [processEvmMessageRow_eq env hsender hbody hnonce hid]
      split_ifs with hlate hfuture
      · exact .inl ⟨_, rfl⟩
      · exact .inl ⟨_, rfl⟩
      · exact .inr ⟨sender, body, nonce, ethSender, hsender, hbody, hnonce, hid, by omega, rfl⟩
  · -- a field is missing or of another type: the row is refused before anything is read
    have hrefused : processEvmMessageRow env row = throw (.SystemTables .MissingExpectedField) := by
      unfold processEvmMessageRow
      split
      · rename_i sender body nonce hsender hbody hnonce
        exact absurd ⟨sender, body, nonce, hsender, hbody, hnonce⟩ hfields
      · rfl
    exact .inl ⟨_, by rw [hrefused]; rfl⟩

theorem processEvmMessageRow_keeps (row : Row) : EStateM.Keeps NoncesLe (processEvmMessageRow env row) := by
  intro s
  rcases processEvmMessageRow_cases env row s with ⟨e, hrow⟩ | ⟨_, body, nonce, ethSender, -, -, -, -, hnext, hrow⟩
  · rw [hrow]
    exact refl_of NoncesLe s
  · rw [hrow]
    -- the sender's nonce goes up by one; handling the message leaves the nonces as they are
    have hrecord : NoncesLe s
        { s with lastProcessedUserNonce := s.lastProcessedUserNonce.insert ethSender nonce.toNat } := by
      intro a
      by_cases ha : a = ethSender
      · rw [ha, expectedNonce_insert_self]
        omega
      · rw [expectedNonce_insert_ne s _ ha]
    exact trans_of NoncesLe hrecord (handleMessage_keeps env ethSender body _).noncesLe

/-! ## Whole tables and runs -/

theorem emitForError_sameNonces (r : EStateM.Result DispatchError (State Acc σ) Unit) :
    SameNonces r.state (emitForError r) := by
  cases r <;> rfl

theorem noncesLe_processRows {processRow : Row → RowM Acc σ Unit}
    (hrow : ∀ row, EStateM.Keeps NoncesLe (processRow row)) (rows : List Row) (s : State Acc σ) :
    NoncesLe s (processRows processRow rows s) := by
  induction rows generalizing s with
  | nil => exact refl_of NoncesLe s
  | cons row rows ih =>
    rw [processRows_cons]
    have hfirst : NoncesLe s (emitForError (processRow row s)) :=
      trans_of NoncesLe (hrow row s) (emitForError_sameNonces _).noncesLe
    exact trans_of NoncesLe hfirst (ih _)

theorem noncesLe_processRequest (request : SystemRequest) (s : State Acc σ) :
    NoncesLe s (processRequest env request s) := by
  have hsame : ∀ {f : Row → RowM Acc σ Unit}, (∀ row, EStateM.Keeps SameNonces (f row)) →
      ∀ row, EStateM.Keeps NoncesLe (f row) :=
    fun h row => (h row).mono fun _ _ => SameNonces.noncesLe
  unfold processRequest
  split
  · exact noncesLe_processRows (processEvmMessageRow_keeps env) _ s
  · exact noncesLe_processRows (hsame (processStakingRow_keeps env)) _ s
  · exact noncesLe_processRows (hsame (processNominatingRow_keeps env)) _ s
  · exact noncesLe_processRows (hsame (processUnstakeRow_keeps env env.rebond)) _ s
  · exact noncesLe_processRows (hsame (processUnstakeRow_keeps env env.unbond)) _ s
  · exact refl_of NoncesLe s

theorem noncesLe_processSystemTable (upper : CaseMapping) (tableId : TableIdentifier) (ocTable : OnChainTable)
    (s : State Acc σ) : NoncesLe s (processSystemTable env upper tableId ocTable s) := by
  unfold processSystemTable
  split
  · exact refl_of NoncesLe s
  · exact noncesLe_processRequest env _ s

theorem onOffence_sameNonces (offenders : List Acc) (s : State Acc σ) :
    SameNonces s (onOffence env offenders s) := by
  induction offenders generalizing s with
  | nil => rfl
  | cons validator offenders ih =>
    simp only [onOffence, List.foldl_cons] at ih ⊢
    -- chilling one offender changes the other pallets and the events only
    refine trans_of SameNonces ?_ (ih _)
    split <;> rfl

theorem setLastNonce_not_root {origin : Origin Acc} (h : origin ≠ .Root) (ethWallet : String) (newNonce : UInt64)
    (s : State Acc σ) : setLastNonce env origin ethWallet newNonce s = .error (.error .BadOrigin) := by
  cases origin with
  | Root => exact absurd rfl h
  | Signed who => rfl
  | None => rfl

/-- One step never lowers a nonce. -/
theorem noncesLe_step {s s' : State Acc σ} (h : Step env s s') : NoncesLe s s' := by
  cases h with
  | systemTable upper tableId ocTable => exact noncesLe_processSystemTable env upper tableId ocTable s
  | offence offenders => exact (onOffence_sameNonces env offenders s).noncesLe
  | setLastNonce origin ethWallet newNonce _ horigin =>
    rw [dispatch_of_error (setLastNonce_not_root env horigin ethWallet newNonce s)]
    exact refl_of NoncesLe s
  | other _ _ hsame => exact SameNonces.noncesLe hsame

/-- Along every run without root's calls, no account's nonce goes down. -/
theorem noncesLe_run {s s' : State Acc σ} (hrun : Relation.ReflTransGen (Step env) s s') : NoncesLe s s' := by
  have hstable : Stable (Step env) (NoncesLe s) :=
    fun _ _ hle hstep => trans_of NoncesLe hle (noncesLe_step env hstep)
  exact hstable.reflTransGen hrun (refl_of NoncesLe s)

/-! ## No message is processed twice -/

section Message

variable {row : Row} {sender body : List UInt8} {nonce : BitVec 256} {ethSender : Acc}
  (hsender : row.get "SENDER" = some (.Bytes sender)) (hbody : row.get "BODY" = some (.Bytes body))
  (hnonce : row.get "NONCE" = some (.Decimal nonce)) (hid : stakerAccountId env sender = .ok ethSender)
include hsender hbody hnonce hid

/-- A message whose nonce is below the sender's expected one is refused as late and changes
nothing. -/
theorem processEvmMessageRow_late {s : State Acc σ} (hlate : nonce.toNat < expectedNonce s ethSender) :
    processEvmMessageRow env row s = .error (.SystemTables .LateNonce) s := by
  rw [processEvmMessageRow_eq env hsender hbody hnonce hid, if_pos hlate]

/-- Accepting a message makes its nonce the sender's last, whether handling it succeeds or not. -/
theorem expectedNonce_processEvmMessageRow {s : State Acc σ} (hnext : nonce.toNat = expectedNonce s ethSender) :
    expectedNonce (emitForError (processEvmMessageRow env row s)) ethSender = nonce.toNat + 1 := by
  have hhandled := handleMessage_keeps env ethSender body
    { s with lastProcessedUserNonce := s.lastProcessedUserNonce.insert ethSender nonce.toNat }
  have hemitted := emitForError_sameNonces (processEvmMessageRow env row s)
  rw [processEvmMessageRow_eq env hsender hbody hnonce hid, if_neg (by omega), if_neg (by omega)] at hemitted ⊢
  rw [expectedNonce, hemitted, hhandled, ← expectedNonce, expectedNonce_insert_self]

/-- A message is processed once: after a row is accepted, every state that a run without root's
calls reaches from there refuses the same row as late. -/
theorem message_refused_after_acceptance {s s' : State Acc σ} (hnext : nonce.toNat = expectedNonce s ethSender)
    (hrun : Relation.ReflTransGen (Step env) (emitForError (processEvmMessageRow env row s)) s') :
    processEvmMessageRow env row s' = .error (.SystemTables .LateNonce) s' := by
  have haccepted := expectedNonce_processEvmMessageRow env hsender hbody hnonce hid hnext
  have hlater := noncesLe_run env hrun ethSender
  exact processEvmMessageRow_late env hsender hbody hnonce hid (by omega)

end Message

/-- The first message `toyStaker` may send: nonce one, and an empty body. -/
def firstMessage : Row :=
  [("SENDER", .Bytes (List.replicate 20 7)), ("BODY", .Bytes []), ("NONCE", .Decimal 1)]

/-- Once processed, the message is refused as late, also after an offence report on its sender. -/
theorem firstMessage_refused_after_offence :
    processEvmMessageRow toyStakingEnv firstMessage
        (onOffence toyStakingEnv [toyStaker] (emitForError (processEvmMessageRow toyStakingEnv firstMessage toyState))) =
      .error (.SystemTables .LateNonce)
        (onOffence toyStakingEnv [toyStaker] (emitForError (processEvmMessageRow toyStakingEnv firstMessage toyState))) :=
  message_refused_after_acceptance toyStakingEnv rfl rfl rfl stakerAccountId_toyStaker rfl (.single (.offence _ _))

end SystemTables

end SxtNode
