import SxtNode.Model.Runtime

/-!
# The indexing pallet (`pallet_indexing`)

Indexers submit a batch of rows for a table. A submission is counted, per quorum scope the
submitter may use, in `Submissions`, keyed by the batch id and the hash of the data with its
block number; once a scope's count exceeds the table's quorum size, the batch is finalized:
its submissions are removed, the decision is recorded in `FinalData`, the data goes through
the native conversion and the commitments pallet, and a quorum event is deposited.

Every call is transactional: `dispatch` keeps the state of a failed call. `Step` is one
dispatched call of this pallet, or a step of the rest of the runtime, which never writes this
pallet's submissions, decisions or events.
-/

set_option autoImplicit false

namespace SxtNode

namespace Indexing

variable {Acc : Type} [LinearOrder Acc] {H C : Type} [DecidableEq H]

/-- `validate_submission`: the batch is undecided, the table names and data are non-empty,
and the table has a schema. -/
def validateSubmission (s : Runtime Acc H C) (table : TableIdentifier) (batchId : BatchId)
    (data : RowData) : Fallible DispatchError Unit := do
  Fallible.ensure (batchId ∉ s.finalData) (.Indexing .LateBatch)
  Fallible.ensure (!(table.namespace_.toList.isEmpty || table.name.toList.isEmpty)) (.Indexing .InvalidTable)
  Fallible.ensure (!data.toList.isEmpty) (.Indexing .NoData)
  Fallible.ensure (!batchId.toList.isEmpty) (.Indexing .InvalidBatch)
  Fallible.ensure ((table.namespace_, table.name) ∈ s.schemas) (.Indexing .InvalidTable)

/-- Deposits indexing events. -/
def deposit (s : Runtime Acc H C) (events : List (IndexingEvent Acc H)) : Runtime Acc H C :=
  { s with indexingEvents := s.indexingEvents ++ events }

/-- The submitters of scope `q` that voted for another hash of the batch: the smallest
`MAX_SUBMITTERS` of them, as the `BTreeSet` collection and `take` leave them. -/
def dissenters (s : Runtime Acc H C) (batchId : BatchId) (dataHash : H) (q : QuorumScope) :
    SubmitterList Acc :=
  BoundedSet.smallest MAX_SUBMITTERS
    (((s.submissions.iterPrefix batchId).filter (·.1 ≠ dataHash)).foldr
      (fun e acc => (e.2.ofScope q).toFinset ∪ acc) ∅)

/-- Stores the submitters of a submission's hash and deposits `DataSubmitted`. -/
def recordSubmission (s : Runtime Acc H C) (who : Acc) (sub : DataSubmission H) (m : SubmittersByScope Acc) :
    Runtime Acc H C :=
  deposit { s with submissions := s.submissions.insert (sub.batchId, sub.dataHash) m } [.DataSubmitted who sub]

/-- The submitters of a hash after adding `who` in scope `q`; a full scope stays as it is. -/
def addSubmitter (m : SubmittersByScope Acc) (who : Acc) (q : QuorumScope) : SubmittersByScope Acc :=
  match m.withSubmitter who q with
  | .ok m' => m'
  | .error (m', _) => m'

/-- `submit_data_and_find_quorum`: counts the submission in scope `q` (failing when the count
does not grow), deposits `DataSubmitted`, and returns a decision when the count exceeds the
scope's quorum size. -/
def submitDataAndFindQuorum (who : Acc) (batchId : BatchId) (dataHash : H) (table : TableIdentifier)
    (tableInsertQuorum : InsertQuorumSize) (q : QuorumScope) (s : Runtime Acc H C) :
    Fallible DispatchError (Option (DataQuorum Acc H) × Runtime Acc H C) := do
  let matchSubmissions := s.submissions.getD (batchId, dataHash) default
  let currentNumMatchingSubmissions := matchSubmissions.lenOfScope q
  let newMatchSubmissions := addSubmitter matchSubmissions who q
  Fallible.ensure (newMatchSubmissions.lenOfScope q ≠ currentNumMatchingSubmissions) (.Indexing .AlreadySubmitted)
  let s := recordSubmission s who ⟨table, batchId, dataHash, q⟩ newMatchSubmissions
  match tableInsertQuorum.ofScope q with
  | some quorumSize =>
    if UInt8.ofNat (newMatchSubmissions.lenOfScope q) > quorumSize then
      pure (some ⟨table, batchId, dataHash, s.blockNumber, newMatchSubmissions.ofScope q,
        dissenters s batchId dataHash q, q⟩, s)
    else pure (none, s)
  | none => pure (none, s)

/-- Counts the submission in scope `q` when the submitter may use it. -/
def countInScope (allowed : Bool) (who : Acc) (batchId : BatchId) (dataHash : H) (table : TableIdentifier)
    (tableInsertQuorum : InsertQuorumSize) (q : QuorumScope) (s : Runtime Acc H C) :
    Fallible DispatchError (Option (DataQuorum Acc H) × Runtime Acc H C) :=
  if allowed then submitDataAndFindQuorum who batchId dataHash table tableInsertQuorum q s
  else pure (none, s)

/-- `i64` to `u64` by `try_into`. -/
def int64ToUInt64? (v : Int64) : Option UInt64 :=
  if 0 ≤ v.toInt then some (UInt64.ofNat v.toInt.toNat) else none

/-- The first writes of `finalize_quorum`: the batch's submissions go, the decision is kept. -/
def recordDecision (s : Runtime Acc H C) (quorum : DataQuorum Acc H) : Runtime Acc H C :=
  { s with
    submissions := s.submissions.removePrefix quorum.batchId
    finalData := s.finalData.insert quorum.batchId quorum }

/-- Records the block number the insert reached, if one is known. -/
def recordBlockNumber (s : Runtime Acc H C) (table : TableIdentifier) : Option UInt64 → Runtime Acc H C
  | some bn => { s with blockNumbers := s.blockNumbers.insert table bn }
  | none => s

/-- Whether an event announces a decision. -/
def isQuorumEvent : IndexingEvent Acc H → Bool
  | .QuorumReached .. | .QuorumEmptyBlock .. => true
  | _ => false

/-- The quorum event: an empty block for an insert without rows, the decision otherwise. -/
def quorumEvent (quorum : DataQuorum Acc H) (ocTable : OnChainTable) (blockNumber : Option UInt64)
    (data : OnChainTableBytes) : IndexingEvent Acc H :=
  if ocTable.numRows = 0 then
    .QuorumEmptyBlock quorum.table (blockNumber.getD 0) quorum.agreements quorum.dissents
  else .QuorumReached quorum data

variable (env : Env C H)

/-- A staking table's insert is mirrored into the system tables; a failure there is reported
as an event and does not fail the call. -/
def systemTableEvents (quorum : DataQuorum Acc H) (ocTable : OnChainTable) (data : OnChainTableBytes) :
    List (IndexingEvent Acc H) :=
  if quorum.table.isStakingTable then
    match env.processSystemTable quorum.table ocTable with
    | .error e => [.SystemTableError quorum.table e data]
    | .ok () => [.SystemTableUpdate quorum.table data]
  else []

/-- `finalize_quorum`. The submissions are removed and the decision is written before the
fallible conversions, which a failure rolls back with the rest of the call. -/
def finalizeQuorum (quorum : DataQuorum Acc H) (rowData : RowData) (blockNumber : Option UInt64)
    (s : Runtime Acc H C) : Fallible DispatchError (Runtime Acc H C) := do
  let s := recordDecision s quorum
  let tableBytes ← (recordBatchToOnchain env.native rowData).mapErr
    fun e => .Indexing (.ofNative e)
  let ocTable ← Fallible.ofExcept (fun _ => .Indexing .TableDeserializationError)
    (OnChainTable.tryFromBytes env.native.upper tableBytes)
  let (metadata, commitments) ← (processInsertAndUpdateCommitments env.native env.posql quorum.table
    ocTable s.commitmentStorageMap).mapErr DispatchError.Commitments
  let s := { s with commitmentStorageMap := commitments }
  let onChainTableBytes ← Fallible.ofExcept (fun _ => .Indexing .TableSerializationError)
    (OnChainTableBytes.tryFromTable env.native metadata.insertWithMetaColumns)
  let s := recordBlockNumber s quorum.table (blockNumber.or (ocTable.maxBlockNumber.bind int64ToUInt64?))
  let s := deposit s [quorumEvent quorum ocTable blockNumber onChainTableBytes]
  pure (deposit s (systemTableEvents env quorum ocTable onChainTableBytes))

/-- The permission to submit to `table` in scope `q`: public submission is global, privileged
submission is per table. -/
def scopePermission (table : TableIdentifier) : QuorumScope → IndexingPalletPermission
  | .Public => .SubmitDataForPublicQuorum
  | .Privileged => .SubmitDataForPrivilegedQuorum table

/-- `can_submit_for_public_quorum` and `can_submit_for_privileged_quorum`: the origin holds the
scope's permission and the table has a quorum size for the scope. -/
def canSubmitForQuorum (s : Runtime Acc H C) (origin : Origin Acc) (table : TableIdentifier)
    (tableInsertQuorum : InsertQuorumSize) (q : QuorumScope) : Bool :=
  (ensureRootOrPermissioned s.permissions origin (.IndexingPallet (scopePermission table q))).isOk &&
    (tableInsertQuorum.ofScope q).isSome

/-- `submit_data_inner`: the signer must be allowed to submit for a scope the table accepts;
the submission is counted in each such scope, public first, and the first decision, if any,
is finalized. -/
def submitDataInner (origin : Origin Acc) (table : TableIdentifier) (batchId : BatchId) (data : RowData)
    (blockNumber : Option UInt64) (s : Runtime Acc H C) : Fallible DispatchError (Runtime Acc H C) := do
  let who ← Fallible.ofExcept DispatchError.ofOrigin (ensureSigned origin)
  let tableInsertQuorum := s.tableInsertQuorums.getD table default
  let canSubmitForPublicQuorum := canSubmitForQuorum s origin table tableInsertQuorum .Public
  let canSubmitForPrivilegedQuorum := canSubmitForQuorum s origin table tableInsertQuorum .Privileged
  Fallible.ensure (canSubmitForPublicQuorum || canSubmitForPrivilegedQuorum) (.Indexing .UnauthorizedSubmitter)
  validateSubmission s table batchId data
  let dataHash := env.hashSubmission data blockNumber
  let (publicDataQuorum, s) ←
    countInScope canSubmitForPublicQuorum who batchId dataHash table tableInsertQuorum .Public s
  let (privilegedDataQuorum, s) ←
    countInScope canSubmitForPrivilegedQuorum who batchId dataHash table tableInsertQuorum .Privileged s
  match publicDataQuorum.or privilegedDataQuorum with
  | some dataQuorum => finalizeQuorum env dataQuorum data blockNumber s
  | none => pure s

/-! ## What each function does -/

section Spec

section Fields

omit [DecidableEq H]

@[simp] theorem deposit_submissions (s : Runtime Acc H C) (l : List (IndexingEvent Acc H)) :
    (deposit s l).submissions = s.submissions := rfl

@[simp] theorem deposit_finalData (s : Runtime Acc H C) (l : List (IndexingEvent Acc H)) :
    (deposit s l).finalData = s.finalData := rfl

@[simp] theorem deposit_indexingEvents (s : Runtime Acc H C) (l : List (IndexingEvent Acc H)) :
    (deposit s l).indexingEvents = s.indexingEvents ++ l := rfl

@[simp] theorem deposit_blockNumber (s : Runtime Acc H C) (l : List (IndexingEvent Acc H)) :
    (deposit s l).blockNumber = s.blockNumber := rfl

@[simp] theorem recordDecision_submissions (s : Runtime Acc H C) (q : DataQuorum Acc H) :
    (recordDecision s q).submissions = s.submissions.removePrefix q.batchId := rfl

@[simp] theorem recordDecision_finalData (s : Runtime Acc H C) (q : DataQuorum Acc H) :
    (recordDecision s q).finalData = s.finalData.insert q.batchId q := rfl

@[simp] theorem recordDecision_indexingEvents (s : Runtime Acc H C) (q : DataQuorum Acc H) :
    (recordDecision s q).indexingEvents = s.indexingEvents := rfl

@[simp] theorem recordBlockNumber_submissions (s : Runtime Acc H C) (t : TableIdentifier) (bn : Option UInt64) :
    (recordBlockNumber s t bn).submissions = s.submissions := by
  cases bn <;> rfl

@[simp] theorem recordBlockNumber_finalData (s : Runtime Acc H C) (t : TableIdentifier) (bn : Option UInt64) :
    (recordBlockNumber s t bn).finalData = s.finalData := by
  cases bn <;> rfl

@[simp] theorem recordBlockNumber_indexingEvents (s : Runtime Acc H C) (t : TableIdentifier)
    (bn : Option UInt64) : (recordBlockNumber s t bn).indexingEvents = s.indexingEvents := by
  cases bn <;> rfl

@[simp] theorem isQuorumEvent_quorumEvent (quorum : DataQuorum Acc H) (t : OnChainTable) (bn : Option UInt64)
    (data : OnChainTableBytes) : isQuorumEvent (quorumEvent quorum t bn data) = true := by
  unfold quorumEvent
  split <;> rfl

end Fields

omit [DecidableEq H] in
theorem not_isQuorumEvent_systemTableEvents {quorum : DataQuorum Acc H} {t : OnChainTable}
    {data : OnChainTableBytes} {e : IndexingEvent Acc H} (he : e ∈ systemTableEvents env quorum t data) :
    isQuorumEvent e = false := by
  unfold systemTableEvents at he
  split at he
  · split at he <;> simp_all [isQuorumEvent]
  · cases he

@[simp] theorem recordSubmission_submissions (s : Runtime Acc H C) (who : Acc) (sub : DataSubmission H)
    (m : SubmittersByScope Acc) :
    (recordSubmission s who sub m).submissions = s.submissions.insert (sub.batchId, sub.dataHash) m := rfl

@[simp] theorem recordSubmission_finalData (s : Runtime Acc H C) (who : Acc) (sub : DataSubmission H)
    (m : SubmittersByScope Acc) : (recordSubmission s who sub m).finalData = s.finalData := rfl

@[simp] theorem recordSubmission_indexingEvents (s : Runtime Acc H C) (who : Acc) (sub : DataSubmission H)
    (m : SubmittersByScope Acc) :
    (recordSubmission s who sub m).indexingEvents = s.indexingEvents ++ [.DataSubmitted who sub] := rfl

@[simp] theorem recordSubmission_blockNumber (s : Runtime Acc H C) (who : Acc) (sub : DataSubmission H)
    (m : SubmittersByScope Acc) : (recordSubmission s who sub m).blockNumber = s.blockNumber := rfl

/-- Adding a submitter only adds it, and only to its scope. -/
theorem mem_addSubmitter {m : SubmittersByScope Acc} {who a : Acc} {q q' : QuorumScope}
    (h : a ∈ (addSubmitter m who q).ofScope q') : a ∈ m.ofScope q' ∨ (q' = q ∧ a = who) := by
  unfold addSubmitter at h
  rcases hw : m.withSubmitter who q with ⟨m'', y⟩ | m'
  · rw [hw] at h
    rw [(SubmittersByScope.withSubmitter_eq_error hw).1] at h
    exact Or.inl h
  · rw [hw] at h
    obtain ⟨hins, hother⟩ := SubmittersByScope.withSubmitter_eq_ok hw
    by_cases hq : q' = q
    · subst hq
      rw [BoundedSet.mem_iff, (BoundedSet.tryInsert_eq_ok.mp hins).2, Finset.mem_insert] at h
      rcases h with rfl | h
      · exact Or.inr ⟨rfl, rfl⟩
      · exact Or.inl h
    · rw [hother q' hq] at h
      exact Or.inl h

/-- The count of the scope stays the same exactly when the submitter is counted already or the
scope is full: the length comparison of `submit_data_and_find_quorum` cannot tell the two apart. -/
theorem lenOfScope_addSubmitter_eq_iff {m : SubmittersByScope Acc} {who : Acc} {q : QuorumScope} :
    (addSubmitter m who q).lenOfScope q = m.lenOfScope q ↔
      who ∈ m.ofScope q ∨ (m.ofScope q).len = MAX_SUBMITTERS := by
  unfold addSubmitter SubmittersByScope.lenOfScope
  rcases hw : m.withSubmitter who q with ⟨m'', y⟩ | m'
  · -- a full scope hands the submitter back with the value unchanged
    obtain ⟨rfl, herr⟩ := SubmittersByScope.withSubmitter_eq_error hw
    obtain ⟨hfull, -, -⟩ := BoundedSet.tryInsert_eq_error.mp herr
    exact iff_of_true rfl (Or.inr hfull)
  · obtain ⟨hins, -⟩ := SubmittersByScope.withSubmitter_eq_ok hw
    obtain ⟨hroom, hset⟩ := BoundedSet.tryInsert_eq_ok.mp hins
    simp only [BoundedSet.len, hset, BoundedSet.mem_iff]
    by_cases hmem : who ∈ (m.ofScope q).toFinset
    · rw [Finset.card_insert_of_mem hmem]
      exact iff_of_true rfl (Or.inl hmem)
    · -- a new submitter grows the count, and was let in because the scope had room
      have hlt : (m.ofScope q).toFinset.card < MAX_SUBMITTERS := hroom.resolve_right hmem
      rw [Finset.card_insert_of_notMem hmem]
      refine iff_of_false (by omega) ?_
      rintro (h | h)
      · exact hmem h
      · omega

omit [DecidableEq H] in
theorem validateSubmission_ok {s : Runtime Acc H C} {t : TableIdentifier} {b : BatchId} {d : RowData}
    (h : validateSubmission s t b d = .ok ()) : b ∉ s.finalData ∧ (t.namespace_, t.name) ∈ s.schemas := by
  unfold validateSubmission at h
  simp only [Fallible.bind_eq_ok, Fallible.ensure_eq_ok, decide_eq_true_eq] at h
  obtain ⟨_, hb, _, -, _, -, _, -, hs⟩ := h
  exact ⟨hb, hs⟩

omit [DecidableEq H] in
/-- A decided batch is rejected as late, whatever the rest of the submission. -/
theorem validateSubmission_late {s : Runtime Acc H C} {t : TableIdentifier} {b : BatchId} {d : RowData}
    (hb : b ∈ s.finalData) : validateSubmission s t b d = .error (.error (.Indexing .LateBatch)) := by
  unfold validateSubmission
  rw [Fallible.ensure_of_false _ (by simpa using hb)]
  rfl

/-- `submit_data_and_find_quorum` adds the submitter to the hash's set and deposits
`DataSubmitted`; a decision it returns names the call's table, batch, hash and scope, with the
grown set as agreements. -/
theorem submitDataAndFindQuorum_ok {who : Acc} {b : BatchId} {hash : H} {t : TableIdentifier}
    {tiq : InsertQuorumSize} {q : QuorumScope} {s s' : Runtime Acc H C} {r : Option (DataQuorum Acc H)}
    (h : submitDataAndFindQuorum who b hash t tiq q s = .ok (r, s')) :
    s' = recordSubmission s who ⟨t, b, hash, q⟩ (addSubmitter (s.submissions.getD (b, hash) default) who q) ∧
    (addSubmitter (s.submissions.getD (b, hash) default) who q).lenOfScope q ≠
      (s.submissions.getD (b, hash) default).lenOfScope q ∧
    ∀ dq, r = some dq → dq = ⟨t, b, hash, s.blockNumber,
      (addSubmitter (s.submissions.getD (b, hash) default) who q).ofScope q, dissenters s' b hash q, q⟩ ∧
      ∃ n, tiq.ofScope q = some n ∧
        n < UInt8.ofNat ((addSubmitter (s.submissions.getD (b, hash) default) who q).lenOfScope q) := by
  unfold submitDataAndFindQuorum at h
  simp only [Fallible.bind_eq_ok, Fallible.ensure_eq_ok, decide_eq_true_eq] at h
  obtain ⟨_, hgrow, h⟩ := h
  -- the three outcomes: a decision, a count below the quorum size, a scope without quorum
  split at h
  · rename_i n hn
    split at h
    · rename_i hgt
      cases h
      exact ⟨rfl, hgrow, fun dq hdq => by cases hdq; exact ⟨rfl, n, hn, hgt⟩⟩
    · cases h
      exact ⟨rfl, hgrow, fun dq hdq => by cases hdq⟩
  · cases h
    exact ⟨rfl, hgrow, fun dq hdq => by cases hdq⟩

/-- `submit_data_and_find_quorum` fails with `AlreadySubmitted` exactly when the submitter is
counted already for the hash and scope, or the scope's set is full; otherwise it succeeds. -/
theorem submitDataAndFindQuorum_alreadySubmitted {who : Acc} {b : BatchId} {hash : H} {t : TableIdentifier}
    {tiq : InsertQuorumSize} {q : QuorumScope} {s : Runtime Acc H C} :
    (who ∈ (s.submissions.getD (b, hash) default).ofScope q ∨
        ((s.submissions.getD (b, hash) default).ofScope q).len = MAX_SUBMITTERS →
      submitDataAndFindQuorum who b hash t tiq q s = .error (.error (.Indexing .AlreadySubmitted))) ∧
    (¬(who ∈ (s.submissions.getD (b, hash) default).ofScope q ∨
        ((s.submissions.getD (b, hash) default).ofScope q).len = MAX_SUBMITTERS) →
      (submitDataAndFindQuorum who b hash t tiq q s).isOk = true) := by
  constructor
  · intro hsame
    unfold submitDataAndFindQuorum
    dsimp only
    rw [Fallible.ensure_of_false _ (by simpa using lenOfScope_addSubmitter_eq_iff.mpr hsame)]
    rfl
  · intro hgrows
    have hne := mt lenOfScope_addSubmitter_eq_iff.mp hgrows
    unfold submitDataAndFindQuorum
    dsimp only
    rw [show Fallible.ensure _ _ = .ok () by simpa using hne, Fallible.ok_bind]
    -- past the check every branch returns
    split
    · split <;> rfl
    · rfl

/-- A dissenter of a decision has a counted vote, in the decision's scope, for another hash of
the batch. -/
theorem mem_dissenters {s : Runtime Acc H C} {b : BatchId} {hash : H} {q : QuorumScope} {a : Acc}
    (h : a ∈ dissenters s b hash q) :
    ∃ hash' m, hash' ≠ hash ∧ s.submissions.lookup (b, hash') = some m ∧ a ∈ m.ofScope q := by
  obtain ⟨⟨hash', m⟩, hmem, ha⟩ := BoundedSet.mem_foldr_union.mp (BoundedSet.mem_smallest h)
  obtain ⟨hpre, hne⟩ := List.mem_filter.mp hmem
  exact ⟨hash', m, of_decide_eq_true hne, StorageMap.mem_iterPrefix.mp hpre, ha⟩

omit [DecidableEq H] in
/-- `finalize_quorum` removes the batch's submissions, records the decision and deposits one
quorum event, followed by the system table events. -/
theorem finalizeQuorum_ok {quorum : DataQuorum Acc H} {d : RowData} {bn : Option UInt64}
    {s s' : Runtime Acc H C} (h : finalizeQuorum env quorum d bn s = .ok s') :
    s'.submissions = s.submissions.removePrefix quorum.batchId ∧
    s'.finalData = s.finalData.insert quorum.batchId quorum ∧
    ∃ ocTable data, s'.indexingEvents =
      s.indexingEvents ++ quorumEvent quorum ocTable bn data :: systemTableEvents env quorum ocTable data := by
  unfold finalizeQuorum at h
  simp only [Fallible.bind_eq_ok] at h
  obtain ⟨tableBytes, -, ocTable, -, ⟨metadata, commitments⟩, -, data, -, h⟩ := h
  cases h
  exact ⟨by simp, by simp, ocTable, data, by simp⟩

/-- Counting in a scope either does nothing (a scope the submitter may not use) or records
the grown submitter set, with a decision for the call's table, batch, hash and scope. -/
theorem countInScope_ok {c : Bool} {who : Acc} {b : BatchId} {hash : H} {t : TableIdentifier}
    {tiq : InsertQuorumSize} {q : QuorumScope} {s s' : Runtime Acc H C} {r : Option (DataQuorum Acc H)}
    (h : countInScope c who b hash t tiq q s = .ok (r, s')) :
    (r = none ∧ s' = s) ∨
    (s' = recordSubmission s who ⟨t, b, hash, q⟩ (addSubmitter (s.submissions.getD (b, hash) default) who q) ∧
      ∀ dq, r = some dq → dq = ⟨t, b, hash, s.blockNumber,
        (addSubmitter (s.submissions.getD (b, hash) default) who q).ofScope q, dissenters s' b hash q, q⟩ ∧
        ∃ n, tiq.ofScope q = some n ∧
          n < UInt8.ofNat ((addSubmitter (s.submissions.getD (b, hash) default) who q).lenOfScope q)) := by
  unfold countInScope at h
  cases c with
  | false =>
    left
    cases h
    exact ⟨rfl, rfl⟩
  | true =>
    obtain ⟨hs', -, hdq⟩ := submitDataAndFindQuorum_ok h
    exact Or.inr ⟨hs', hdq⟩

/-- Counting leaves the decisions as they are, and a decision it returns is for the call's
batch. -/
theorem countInScope_finalData {c : Bool} {who : Acc} {b : BatchId} {hash : H} {t : TableIdentifier}
    {tiq : InsertQuorumSize} {q : QuorumScope} {s s' : Runtime Acc H C} {r : Option (DataQuorum Acc H)}
    (h : countInScope c who b hash t tiq q s = .ok (r, s')) :
    s'.finalData = s.finalData ∧ ∀ dq, r = some dq → dq.batchId = b := by
  rcases countInScope_ok h with ⟨rfl, rfl⟩ | ⟨rfl, hdq⟩
  · exact ⟨rfl, fun dq hdq => by cases hdq⟩
  · exact ⟨rfl, fun dq hr => by rw [(hdq dq hr).1]⟩

/-- A successful submission comes from a signed account, for an undecided batch; it is counted
in the public scope, then in the privileged one, and the first decision, if any, is
finalized. -/
theorem submitDataInner_ok {origin : Origin Acc} {t : TableIdentifier} {b : BatchId} {d : RowData}
    {bn : Option UInt64} {s s' : Runtime Acc H C} (h : submitDataInner env origin t b d bn s = .ok s') :
    ∃ who, origin = .Signed who ∧ b ∉ s.finalData ∧
    ∃ r₁ s₁ r₂ s₂,
      countInScope (canSubmitForQuorum s origin t (s.tableInsertQuorums.getD t default) .Public) who b
        (env.hashSubmission d bn) t (s.tableInsertQuorums.getD t default) .Public s = .ok (r₁, s₁) ∧
      countInScope (canSubmitForQuorum s origin t (s.tableInsertQuorums.getD t default) .Privileged) who b
        (env.hashSubmission d bn) t (s.tableInsertQuorums.getD t default) .Privileged s₁ = .ok (r₂, s₂) ∧
      (r₁.or r₂ = none ∧ s' = s₂ ∨ ∃ dq, r₁.or r₂ = some dq ∧ finalizeQuorum env dq d bn s₂ = .ok s') := by
  unfold submitDataInner at h
  simp only [Fallible.bind_eq_ok, Fallible.ensure_eq_ok] at h
  obtain ⟨who, hwho, _, -, _, hv, ⟨r₁, s₁⟩, h₁, ⟨r₂, s₂⟩, h₂, h⟩ := h
  have hsigned : origin = .Signed who := by
    cases origin <;> cases hwho
    rfl
  refine ⟨who, hsigned, (validateSubmission_ok hv).1, r₁, s₁, r₂, s₂, h₁, h₂, ?_⟩
  split at h
  · rename_i dq hdq
    exact Or.inr ⟨dq, hdq, h⟩
  · rename_i hnone
    cases h
    exact Or.inl ⟨hnone, rfl⟩

/-- A successful submission was for an undecided batch, and it records at most one decision,
for that batch. -/
theorem finalData_submitDataInner {origin : Origin Acc} {t : TableIdentifier} {b : BatchId}
    {d : RowData} {bn : Option UInt64} {s s' : Runtime Acc H C}
    (h : submitDataInner env origin t b d bn s = .ok s') :
    b ∉ s.finalData ∧
      (s'.finalData = s.finalData ∨ ∃ dq, dq.batchId = b ∧ s'.finalData = s.finalData.insert b dq) := by
  obtain ⟨who, -, hb, r₁, s₁, r₂, s₂, h₁, h₂, hfin⟩ := submitDataInner_ok env h
  obtain ⟨hf₁, hr₁⟩ := countInScope_finalData h₁
  obtain ⟨hf₂, hr₂⟩ := countInScope_finalData h₂
  refine ⟨hb, ?_⟩
  rcases hfin with ⟨-, rfl⟩ | ⟨dq, hdq, hfinal⟩
  · exact Or.inl (hf₂.trans hf₁)
  · have hbatch : dq.batchId = b := by
      rcases Option.or_eq_some_iff.mp hdq with h₁' | ⟨-, h₂'⟩
      · exact hr₁ dq h₁'
      · exact hr₂ dq h₂'
    refine Or.inr ⟨dq, hbatch, ?_⟩
    rw [(finalizeQuorum_ok env hfinal).2.1, hf₂, hf₁, hbatch]

/-- A submission for a decided batch fails before writing anything: at the origin check, at
the permission check, or, once both pass, as late. -/
theorem submitDataInner_late (origin : Origin Acc) (t : TableIdentifier) (d : RowData)
    (bn : Option UInt64) {b : BatchId} {s : Runtime Acc H C} (hb : b ∈ s.finalData) :
    ∃ e, submitDataInner env origin t b d bn s = .error (.error e) ∧
      (e = .Indexing .LateBatch ∨ e = .Indexing .UnauthorizedSubmitter ∨ e = .BadOrigin) ∧
      ∀ who, origin = .Signed who →
        (canSubmitForQuorum s origin t (s.tableInsertQuorums.getD t default) .Public ||
          canSubmitForQuorum s origin t (s.tableInsertQuorums.getD t default) .Privileged) = true →
        e = .Indexing .LateBatch := by
  cases origin with
  | Signed who =>
    -- the permission check comes before the batch is looked up
    by_cases hallowed :
        (canSubmitForQuorum s (.Signed who) t (s.tableInsertQuorums.getD t default) .Public ||
          canSubmitForQuorum s (.Signed who) t (s.tableInsertQuorums.getD t default) .Privileged) = true
    · refine ⟨.Indexing .LateBatch, ?_, Or.inl rfl, fun _ _ _ => rfl⟩
      simp only [submitDataInner, ensureSigned, Fallible.ofExcept_ok, hallowed, Fallible.ensure, if_true,
        validateSubmission_late hb]
      rfl
    · refine ⟨.Indexing .UnauthorizedSubmitter, ?_, Or.inr (Or.inl rfl), fun _ _ h => absurd h hallowed⟩
      simp only [submitDataInner, ensureSigned, Fallible.ofExcept_ok,
        Fallible.ensure_of_false _ (Bool.eq_false_iff.mpr hallowed)]
      rfl
  | Root => exact ⟨.BadOrigin, rfl, Or.inr (Or.inr rfl), fun _ h => by cases h⟩
  | None => exact ⟨.BadOrigin, rfl, Or.inr (Or.inr rfl), fun _ h => by cases h⟩

end Spec

/-- The pallet's extrinsics. -/
inductive Call where
  | submitData (table : TableIdentifier) (batchId : BatchId) (data : RowData)
  | submitBlockchainData (table : TableIdentifier) (batchId : BatchId) (data : RowData)
      (blockNumber : UInt64)

/-- The batch an extrinsic submits to. -/
def Call.batchId : Call → BatchId
  | .submitData _ b _ | .submitBlockchainData _ b _ _ => b

/-- The table an extrinsic submits to. -/
def Call.table : Call → TableIdentifier
  | .submitData t _ _ | .submitBlockchainData t _ _ _ => t

/-- What an extrinsic runs. -/
def Call.run (origin : Origin Acc) : Call → Runtime Acc H C → Fallible DispatchError (Runtime Acc H C)
  | .submitData table batchId data => submitDataInner env origin table batchId data none
  | .submitBlockchainData table batchId data bn => submitDataInner env origin table batchId data (some bn)

/-- Both extrinsics run `submit_data_inner` on their table and batch. -/
theorem Call.run_eq (origin : Origin Acc) (c : Call) :
    ∃ d bn, (c.run env origin : Runtime Acc H C → _) = submitDataInner env origin c.table c.batchId d bn := by
  cases c with
  | submitData t b d => exact ⟨d, none, rfl⟩
  | submitBlockchainData t b d bn => exact ⟨d, some bn, rfl⟩

/-- The storage only this pallet writes is unchanged. -/
def Unchanged (s s' : Runtime Acc H C) : Prop :=
  s'.submissions = s.submissions ∧ s'.finalData = s.finalData ∧ s'.indexingEvents = s.indexingEvents

/-- The pallet has recorded nothing yet. -/
def Init (s : Runtime Acc H C) : Prop :=
  s.submissions = ∅ ∧ s.finalData = ∅ ∧ s.indexingEvents = []

/-- One step of the runtime as the indexing pallet sees it: a dispatched extrinsic of the
pallet by any origin, or anything else the runtime does. -/
inductive Step : Runtime Acc H C → Runtime Acc H C → Prop where
  | call (origin : Origin Acc) (c : Call) (s : Runtime Acc H C) : Step s (dispatch (c.run env origin) s)
  | other (s s' : Runtime Acc H C) : Unchanged s s' → Step s s'

end Indexing

end SxtNode
