import SxtNode.Model.Indexing

/-!
# Whose votes a decision counts

Every account a decision lists as agreeing made a counted submission of the decided hash for
the batch in the decision's scope, and every dissenter one of another hash: the
`DataSubmitted` events of their calls say so. `VoteInv` carries this for the stored submitter
sets and for the recorded decisions; each write of a successful call keeps it.

That is all a decision guarantees. Submissions are stored under the batch and the hash, with
neither the table nor the submitter's earlier votes in the key, so the vote counted for a
table may have been cast for another table, and one account may vote for two hashes of a
batch. Two runs below show both.
-/

set_option autoImplicit false

namespace SxtNode

namespace Indexing

variable {Acc : Type} [LinearOrder Acc] {H C : Type} [DecidableEq H] (env : Env C H)

section Attribution

omit [DecidableEq H]

/-- `who` made a counted submission of `hash` for batch `b` in scope `q`, to some table. -/
def Submitted (s : Runtime Acc H C) (who : Acc) (b : BatchId) (hash : H) (q : QuorumScope) : Prop :=
  ∃ t, IndexingEvent.DataSubmitted who ⟨t, b, hash, q⟩ ∈ s.indexingEvents

theorem Submitted.mono {s s' : Runtime Acc H C} {who : Acc} {b : BatchId} {hash : H} {q : QuorumScope}
    (h : Submitted s who b hash q) (hev : s.indexingEvents ⊆ s'.indexingEvents) :
    Submitted s' who b hash q := by
  obtain ⟨t, ht⟩ := h
  exact ⟨t, hev ht⟩

/-- The agreements of a decision submitted its hash, its dissenters another hash of the batch,
in the decision's scope. -/
def VotesCounted (s : Runtime Acc H C) (dq : DataQuorum Acc H) : Prop :=
  (∀ a ∈ dq.agreements, Submitted s a dq.batchId dq.dataHash dq.quorumScope) ∧
    ∀ a ∈ dq.dissents, ∃ hash, hash ≠ dq.dataHash ∧ Submitted s a dq.batchId hash dq.quorumScope

theorem VotesCounted.mono {s s' : Runtime Acc H C} {dq : DataQuorum Acc H} (h : VotesCounted s dq)
    (hev : s.indexingEvents ⊆ s'.indexingEvents) : VotesCounted s' dq := by
  obtain ⟨hagree, hdissent⟩ := h
  refine ⟨fun a ha => (hagree a ha).mono hev, fun a ha => ?_⟩
  obtain ⟨hash, hne, hsub⟩ := hdissent a ha
  exact ⟨hash, hne, hsub.mono hev⟩

/-- Every stored submitter and every recorded decision is accounted for by the events. -/
structure VoteInv (s : Runtime Acc H C) : Prop where
  submitters : ∀ b hash m, s.submissions.lookup (b, hash) = some m →
    ∀ q, ∀ a ∈ m.ofScope q, Submitted s a b hash q
  decisions : ∀ b dq, s.finalData.lookup b = some dq → VotesCounted s dq

end Attribution

theorem voteInv_init {s : Runtime Acc H C} (h : Init s) : VoteInv s := by
  obtain ⟨hsub, hfin, -⟩ := h
  constructor
  · intro b hash m hm
    rw [hsub] at hm
    cases hm
  · intro b dq hq
    rw [hfin] at hq
    cases hq

/-- Pallets other than this one leave the invariant alone. -/
theorem voteInv_unchanged {s s' : Runtime Acc H C} (hi : VoteInv s) (hu : Unchanged s s') : VoteInv s' := by
  obtain ⟨hsub, hfin, hev⟩ := hu
  have hmono : s.indexingEvents ⊆ s'.indexingEvents := by
    rw [hev]
    exact List.Subset.refl _
  constructor
  · intro b hash m hm q a ha
    rw [hsub] at hm
    exact (hi.submitters b hash m hm q a ha).mono hmono
  · intro b dq hq
    rw [hfin] at hq
    exact (hi.decisions b dq hq).mono hmono

/-- Adding the caller to a hash's submitters, with its `DataSubmitted` event, keeps the
invariant. -/
theorem voteInv_recordSubmission {s : Runtime Acc H C} (hi : VoteInv s) (who : Acc) (sub : DataSubmission H) :
    VoteInv (recordSubmission s who sub
      (addSubmitter (s.submissions.getD (sub.batchId, sub.dataHash) default) who sub.quorumScope)) := by
  have hmono : s.indexingEvents ⊆ (recordSubmission s who sub
      (addSubmitter (s.submissions.getD (sub.batchId, sub.dataHash) default) who sub.quorumScope)).indexingEvents := by
    rw [recordSubmission_indexingEvents]
    exact List.subset_append_left _ _
  constructor
  · intro b hash m hm q a ha
    rw [recordSubmission_submissions] at hm
    by_cases hk : (b, hash) = (sub.batchId, sub.dataHash)
    · -- the grown set: an old member, or the caller in the call's scope
      rw [hk, AList.lookup_insert] at hm
      obtain ⟨rfl, rfl⟩ := Prod.mk.inj hk
      cases hm
      rcases mem_addSubmitter ha with hold | ⟨rfl, rfl⟩
      · cases hlook : s.submissions.lookup (sub.batchId, sub.dataHash) with
        | none =>
          simp [StorageMap.getD, hlook] at hold
        | some m₀ =>
          rw [StorageMap.getD, hlook, Option.getD_some] at hold
          exact (hi.submitters _ _ m₀ hlook q a hold).mono hmono
      · exact ⟨sub.table, by simp⟩
    · rw [AList.lookup_insert_ne hk] at hm
      exact (hi.submitters b hash m hm q a ha).mono hmono
  · intro b dq hq
    rw [recordSubmission_finalData] at hq
    exact (hi.decisions b dq hq).mono hmono

theorem indexingEvents_subset_countInScope {c : Bool} {who : Acc} {b : BatchId} {hash : H}
    {t : TableIdentifier} {tiq : InsertQuorumSize} {q : QuorumScope} {s s' : Runtime Acc H C}
    {r : Option (DataQuorum Acc H)} (h : countInScope c who b hash t tiq q s = .ok (r, s')) :
    s.indexingEvents ⊆ s'.indexingEvents := by
  rcases countInScope_ok h with ⟨-, rfl⟩ | ⟨rfl, -⟩
  · exact List.Subset.refl _
  · rw [recordSubmission_indexingEvents]
    exact List.subset_append_left _ _

/-- Counting keeps the invariant, and a decision it returns is accounted for: its agreements
are the grown set of the hash, its dissenters come from the batch's other hashes. -/
theorem voteInv_countInScope {c : Bool} {who : Acc} {b : BatchId} {hash : H} {t : TableIdentifier}
    {tiq : InsertQuorumSize} {q : QuorumScope} {s s' : Runtime Acc H C} {r : Option (DataQuorum Acc H)}
    (hi : VoteInv s) (h : countInScope c who b hash t tiq q s = .ok (r, s')) :
    VoteInv s' ∧ ∀ dq, r = some dq → VotesCounted s' dq := by
  rcases countInScope_ok h with ⟨rfl, rfl⟩ | ⟨rfl, hdq⟩
  · exact ⟨hi, fun dq hdq => by cases hdq⟩
  · have hi' := voteInv_recordSubmission hi who ⟨t, b, hash, q⟩
    refine ⟨hi', fun dq hr => ?_⟩
    obtain ⟨rfl, -⟩ := hdq dq hr
    constructor
    · intro a ha
      exact hi'.submitters b hash _ (by simp) q a ha
    · intro a ha
      obtain ⟨hash', m, hne, hm, ha'⟩ := mem_dissenters ha
      exact ⟨hash', hne, hi'.submitters b hash' m hm q a ha'⟩

/-- Finalizing an accounted-for decision keeps the invariant. -/
theorem voteInv_finalize {dq : DataQuorum Acc H} {d : RowData} {bn : Option UInt64}
    {s s' : Runtime Acc H C} (hi : VoteInv s) (hdq : VotesCounted s dq)
    (h : finalizeQuorum env dq d bn s = .ok s') : VoteInv s' := by
  obtain ⟨hsub, hfin, ocTable, data, hev⟩ := finalizeQuorum_ok env h
  have hmono : s.indexingEvents ⊆ s'.indexingEvents := by
    rw [hev]
    exact List.subset_append_left _ _
  constructor
  · intro b hash m hm q a ha
    rw [hsub, StorageMap.lookup_removePrefix] at hm
    split at hm
    · cases hm
    · exact (hi.submitters b hash m hm q a ha).mono hmono
  · intro b dq' hq
    rw [hfin] at hq
    by_cases hb : b = dq.batchId
    · rw [hb, AList.lookup_insert] at hq
      cases hq
      exact hdq.mono hmono
    · rw [AList.lookup_insert_ne hb] at hq
      exact (hi.decisions b dq' hq).mono hmono

/-- A successful submission keeps the invariant. -/
theorem voteInv_submitDataInner {origin : Origin Acc} {t : TableIdentifier} {b : BatchId}
    {d : RowData} {bn : Option UInt64} {s s' : Runtime Acc H C} (hi : VoteInv s)
    (h : submitDataInner env origin t b d bn s = .ok s') : VoteInv s' := by
  obtain ⟨who, -, -, r₁, s₁, r₂, s₂, h₁, h₂, hfin⟩ := submitDataInner_ok env h
  obtain ⟨hi₁, hd₁⟩ := voteInv_countInScope hi h₁
  obtain ⟨hi₂, hd₂⟩ := voteInv_countInScope hi₁ h₂
  rcases hfin with ⟨-, rfl⟩ | ⟨dq, hdq, hfinal⟩
  · exact hi₂
  · -- a public decision was counted before the privileged scope added its event
    have hcounted : VotesCounted s₂ dq := by
      rcases Option.or_eq_some_iff.mp hdq with h₁' | ⟨-, h₂'⟩
      · exact (hd₁ dq h₁').mono (indexingEvents_subset_countInScope h₂)
      · exact hd₂ dq h₂'
    exact voteInv_finalize env hi₂ hcounted hfinal

theorem voteInv_step : Stable (Step env) (fun s : Runtime Acc H C => VoteInv s) := by
  intro s s' hi hstep
  cases hstep with
  | call origin c =>
    obtain ⟨d, bn, hrun⟩ := c.run_eq env origin
    rw [hrun]
    exact dispatch_preserves VoteInv (fun _ _ hi h => voteInv_submitDataInner env hi h) s hi
  | other _ _ hu => exact voteInv_unchanged hi hu

/-- In every reachable state, each recorded decision's agreements submitted its hash for its
batch and scope, and its dissenters another hash. -/
theorem votesCounted_of_reachable {s : Runtime Acc H C} (hs : Reachable Init (Step env) s)
    {b : BatchId} {dq : DataQuorum Acc H} (hq : s.finalData.lookup b = some dq) : VotesCounted s dq :=
  (Reachable.induction (fun _ => voteInv_init) (voteInv_step env) hs).decisions b dq hq

/-- The tables named by the `DataSubmitted` events of `who`. -/
def submittedTables (s : Runtime Acc H C) (who : Acc) : List TableIdentifier :=
  s.indexingEvents.filterMap fun
    | .DataSubmitted a sub => if a = who then some sub.table else none
    | _ => none

omit [DecidableEq H] in
theorem mem_submittedTables {s : Runtime Acc H C} {who : Acc} {t : TableIdentifier} :
    t ∈ submittedTables s who ↔ ∃ sub, IndexingEvent.DataSubmitted who sub ∈ s.indexingEvents ∧ sub.table = t := by
  simp only [submittedTables, List.mem_filterMap]
  constructor
  · rintro ⟨e, he, ht⟩
    cases e with
    | DataSubmitted a sub =>
      by_cases ha : a = who
      · subst ha
        exact ⟨sub, he, by simpa using ht⟩
      · simp [ha] at ht
    | _ => cases ht
  · rintro ⟨sub, he, rfl⟩
    exact ⟨_, he, by simp⟩

/-! ## One vote per hash and scope

`with_submitter` is an insertion into the bounded set of one scope. The pallet detects a vote it
does not count by the set's length, which stays the same both for a repeated submitter and for
a full set, and rejects both as `AlreadySubmitted` before it writes anything. -/

/-- `with_submitter` adds the submitter to the scope's set and leaves the other scope; when it
fails, it hands back the value and the submitter, which the full set did not hold. The count
then stays the same exactly for a repeated submitter or a full set, and those are the cases in
which `submit_data_and_find_quorum` fails with `AlreadySubmitted`. -/
theorem withSubmitter_inserts_into_scope (s : SubmittersByScope Acc) (x : Acc) (q : QuorumScope) :
    (∀ s', s.withSubmitter x q = .ok s' →
      (s'.ofScope q).toFinset = insert x (s.ofScope q).toFinset ∧ ∀ q', q' ≠ q → s'.ofScope q' = s.ofScope q') ∧
    (∀ s'' y, s.withSubmitter x q = .error (s'', y) →
      s'' = s ∧ y = x ∧ x ∉ s.ofScope q ∧ (s.ofScope q).len = MAX_SUBMITTERS) ∧
    ∀ (st : Runtime Acc H C) (b : BatchId) (hash : H) (t : TableIdentifier) (tiq : InsertQuorumSize),
      st.submissions.getD (b, hash) default = s →
      (submitDataAndFindQuorum x b hash t tiq q st = .error (.error (.Indexing .AlreadySubmitted)) ↔
        x ∈ s.ofScope q ∨ (s.ofScope q).len = MAX_SUBMITTERS) ∧
      (¬(x ∈ s.ofScope q ∨ (s.ofScope q).len = MAX_SUBMITTERS) →
        (submitDataAndFindQuorum x b hash t tiq q st).isOk = true) := by
  refine ⟨fun s' h => ?_, fun s'' y h => ?_, fun st b hash t tiq hs => ?_⟩
  · obtain ⟨hins, hother⟩ := SubmittersByScope.withSubmitter_eq_ok h
    exact ⟨(BoundedSet.tryInsert_eq_ok.mp hins).2, hother⟩
  · obtain ⟨rfl, herr⟩ := SubmittersByScope.withSubmitter_eq_error h
    obtain ⟨hfull, hnot, rfl⟩ := BoundedSet.tryInsert_eq_error.mp herr
    exact ⟨rfl, rfl, hnot, hfull⟩
  · subst hs
    refine ⟨⟨fun herr => ?_, submitDataAndFindQuorum_alreadySubmitted.1⟩, submitDataAndFindQuorum_alreadySubmitted.2⟩
    -- a call that succeeds when the vote grows the count cannot have failed
    by_contra hgrows
    have h : (submitDataAndFindQuorum x b hash t tiq q st).isOk = true :=
      submitDataAndFindQuorum_alreadySubmitted.2 hgrows
    rw [herr] at h
    cases h

/-! ## Two runs

Two tables of one namespace, each with a privileged quorum of size one, so that a decision
needs two votes. Every insert decodes to one `BIGINT` column, which matches `tableA`'s
commitment. -/

/-- An arrow batch of one row, with a single 64-bit column `a`. -/
def oneColumnBatch : Arrow.RecordBatch where
  fields := [⟨"a", .Int64, false⟩]
  columns := [⟨.Int64, .Int64 [7], 0⟩]
  rowCount := 1
  types := by decide
  column_len := by decide

/-- Metadata commitments; every row data decodes to `oneColumnBatch`, and a submission's hash
is its data and block number. -/
def sampleEnv : Env MetaCommitment (List UInt8 × Option UInt64) where
  native := ⟨asciiCaseMapping, fun _ => .error (), fun _ => .Batch oneColumnBatch, fun _ => 0⟩
  posql := PosqlEnv.metadata (fun _ _ => true) (fun _ => 0) (fun _ _ => .error ())
  hashSubmission d bn := (d.toList, bn)
  processSystemTable _ _ := .ok ()

def tableA : TableIdentifier := ⟨⟨[65], by decide⟩, ⟨[78], by decide⟩⟩

def tableB : TableIdentifier := ⟨⟨[66], by decide⟩, ⟨[78], by decide⟩⟩

def sampleBatch : BatchId := ⟨[98], by decide⟩

def rowsOne : RowData := ⟨[1], by decide⟩

def rowsTwo : RowData := ⟨[2], by decide⟩

/-- The privileged submission permissions for some tables. -/
def privilegedFor (l : List TableIdentifier) (h : l.length ≤ 32 := by decide) :
    Option (BoundedVec PermissionLevel 32) :=
  some ⟨l.map fun t => .IndexingPallet (.SubmitDataForPrivilegedQuorum t), by simpa using h⟩

/-- Both tables exist with privileged quorum size one; only `tableA` has a commitment. -/
def sampleState (perms : Permissions ℕ) : Runtime ℕ (List UInt8 × Option UInt64) MetaCommitment where
  blockNumber := 5
  permissions := perms
  columnVersions := ∅
  namespaceVersions := ∅
  tableVersions := ∅
  identifiers := fun _ => default
  schemas := ((∅ : StorageMap _ _).insert (tableA.namespace_, tableA.name) default).insert
    (tableB.namespace_, tableB.name) default
  snapshots := ∅
  tableInsertQuorums := ((∅ : StorageMap _ _).insert tableA ⟨none, some 1⟩).insert tableB ⟨none, some 1⟩
  tableSources := ∅
  tablesEvents := []
  commitmentStorageMap := (∅ : StorageMap _ _).insert (tableA, .DynamicDory) ⟨[(Ident.new "A", .BigInt)], 0, 0⟩
  submissions := ∅
  finalData := ∅
  blockNumbers := ∅
  indexingEvents := []
  contractStorage := ∅
  contractTables := ∅
  smartContractsEvents := []
  keys := ∅
  attestations := ∅
  lastForwardedBlock := none
  attestationEvents := []
  keystoreEvents := []

/-- Account 1 may submit only to `tableB`, account 2 only to `tableA`. -/
def crossPerms : Permissions ℕ := fun a =>
  if a = 1 then privilegedFor [tableB] else if a = 2 then privilegedFor [tableA] else none

/-- Account 1 submits to `tableB`, then account 2 the same data for the same batch to `tableA`. -/
def crossTableRun : Runtime ℕ (List UInt8 × Option UInt64) MetaCommitment :=
  dispatch ((Call.submitData tableA sampleBatch rowsOne).run sampleEnv (.Signed 2))
    (dispatch ((Call.submitData tableB sampleBatch rowsOne).run sampleEnv (.Signed 1)) (sampleState crossPerms))

theorem reachable_crossTableRun : Reachable Init (Step sampleEnv) crossTableRun :=
  (Reachable.of_init ⟨rfl, rfl, rfl⟩ |>.tail (Step.call _ _ _)).tail (Step.call _ _ _)

/-- The decision of `crossTableRun` counts only accounts that submitted its hash for its batch and
scope, to some table. -/
theorem crossTableRun_votesCounted :
    ∃ dq, crossTableRun.finalData.lookup sampleBatch = some dq ∧ VotesCounted crossTableRun dq := by
  obtain ⟨dq, hq⟩ := Option.isSome_iff_exists.mp (by decide : (crossTableRun.finalData.lookup sampleBatch).isSome)
  exact ⟨dq, hq, votesCounted_of_reachable sampleEnv reachable_crossTableRun hq⟩

/-- The decision for `tableA` counts account 1, which neither submitted to `tableA` nor may. -/
theorem crossTableRun_counts_vote_for_other_table :
    Reachable Init (Step sampleEnv) crossTableRun ∧
    (∃ dq ∈ crossTableRun.finalData.lookup sampleBatch, dq.table = tableA ∧ 1 ∈ dq.agreements) ∧
    (∀ sub, IndexingEvent.DataSubmitted 1 sub ∈ crossTableRun.indexingEvents → sub.table = tableB) ∧
    hasPermissions crossTableRun.permissions 1 (.IndexingPallet (.SubmitDataForPrivilegedQuorum tableA)) = false := by
  refine ⟨reachable_crossTableRun, by decide, fun sub hsub => ?_, by decide⟩
  have htables : submittedTables crossTableRun 1 = [tableB] := by decide
  have hmem : sub.table ∈ submittedTables crossTableRun 1 := mem_submittedTables.mpr ⟨sub, hsub, rfl⟩
  rw [htables, List.mem_singleton] at hmem
  exact hmem

/-- Accounts 1 and 2 may submit to `tableA`. -/
def doublePerms : Permissions ℕ := fun a => if a = 1 ∨ a = 2 then privilegedFor [tableA] else none

/-- Account 1 submits two different data for one batch; account 2 then agrees with the first. -/
def doubleVoteRun : Runtime ℕ (List UInt8 × Option UInt64) MetaCommitment :=
  dispatch ((Call.submitData tableA sampleBatch rowsOne).run sampleEnv (.Signed 2))
    (dispatch ((Call.submitData tableA sampleBatch rowsTwo).run sampleEnv (.Signed 1))
      (dispatch ((Call.submitData tableA sampleBatch rowsOne).run sampleEnv (.Signed 1))
        (sampleState doublePerms)))

/-- Account 1 is among both the agreements and the dissents of the decision. -/
theorem doubleVoteRun_agrees_and_dissents :
    Reachable Init (Step sampleEnv) doubleVoteRun ∧
    ∃ dq ∈ doubleVoteRun.finalData.lookup sampleBatch, 1 ∈ dq.agreements ∧ 1 ∈ dq.dissents := by
  refine ⟨?_, by decide⟩
  exact ((Reachable.of_init ⟨rfl, rfl, rfl⟩ |>.tail (Step.call _ _ _)).tail (Step.call _ _ _)).tail
    (Step.call _ _ _)

end Indexing

end SxtNode
