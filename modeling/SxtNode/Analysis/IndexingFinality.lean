import SxtNode.Analysis.IndexingVotes

/-!
# A batch is decided once

Once `FinalData` holds a decision for a batch, no step of the runtime changes it: every later
submission for the batch fails before writing anything (as late when the signer may submit to
the table, and otherwise at the origin or permission check), and the call that decided it
removed all of the batch's submissions. Every decision is announced by exactly one quorum
event, even when both scopes reach their quorum in one call, since a call finalizes at most
one decision.

The invariant `FinalityInv` carries the two facts about whole states; each kind of write of a
successful call keeps it, and `Reachable.induction` gives it for every reachable state.
-/

set_option autoImplicit false

namespace SxtNode

namespace Indexing

variable {Acc : Type} [LinearOrder Acc] {H C : Type} [DecidableEq H] (env : Env C H)

/-- A decided batch has no submissions left, and there is one quorum event per decision. -/
structure FinalityInv (s : Runtime Acc H C) : Prop where
  no_submissions : ∀ b ∈ s.finalData, ∀ h, (b, h) ∉ s.submissions
  quorum_events : (s.indexingEvents.filter isQuorumEvent).length = s.finalData.keys.length

omit [DecidableEq H] in
theorem finalityInv_init {s : Runtime Acc H C} (h : Init s) : FinalityInv s := by
  obtain ⟨hsub, hfin, hev⟩ := h
  constructor
  · intro b hb
    rw [hfin] at hb
    cases hb
  · rw [hev, hfin]
    rfl

/-- Counting a submission of an undecided batch keeps the invariant. -/
theorem finalityInv_recordSubmission {s : Runtime Acc H C} (hi : FinalityInv s) (who : Acc)
    {sub : DataSubmission H} (hb : sub.batchId ∉ s.finalData) (m : SubmittersByScope Acc) :
    FinalityInv (recordSubmission s who sub m) := by
  constructor
  · intro b hbf h hmem
    rw [recordSubmission_finalData] at hbf
    rw [recordSubmission_submissions, AList.mem_insert] at hmem
    rcases hmem with heq | hmem
    · exact hb (by rw [← (Prod.mk.inj heq).1]; exact hbf)
    · exact hi.no_submissions b hbf h hmem
  · simpa [isQuorumEvent] using hi.quorum_events

theorem finalityInv_countInScope {c : Bool} {who : Acc} {b : BatchId} {hash : H} {t : TableIdentifier}
    {tiq : InsertQuorumSize} {q : QuorumScope} {s s' : Runtime Acc H C} {r : Option (DataQuorum Acc H)}
    (hi : FinalityInv s) (hb : b ∉ s.finalData) (h : countInScope c who b hash t tiq q s = .ok (r, s')) :
    FinalityInv s' ∧ s'.finalData = s.finalData ∧ ∀ dq, r = some dq → dq.batchId = b := by
  obtain ⟨hfin, hr⟩ := countInScope_finalData h
  refine ⟨?_, hfin, hr⟩
  rcases countInScope_ok h with ⟨-, rfl⟩ | ⟨rfl, -⟩
  · exact hi
  · exact finalityInv_recordSubmission hi who hb _

/-- Finalizing a decision for an undecided batch keeps the invariant. -/
theorem finalityInv_finalize {dq : DataQuorum Acc H} {d : RowData} {bn : Option UInt64}
    {s s' : Runtime Acc H C} (hi : FinalityInv s) (hb : dq.batchId ∉ s.finalData)
    (h : finalizeQuorum env dq d bn s = .ok s') : FinalityInv s' := by
  obtain ⟨hsub, hfin, ocTable, data, hev⟩ := finalizeQuorum_ok env h
  constructor
  · intro b hbf hash hmem
    rw [hsub, StorageMap.mem_removePrefix] at hmem
    rw [hfin, AList.mem_insert] at hbf
    rcases hbf with rfl | hbf
    · exact hmem.1 rfl
    · exact hi.no_submissions b hbf hash hmem.2
  · have hsys : (systemTableEvents env dq ocTable data).filter isQuorumEvent = [] :=
      List.filter_eq_nil_iff.mpr fun e he => by
        simp [not_isQuorumEvent_systemTableEvents env he]
    rw [hev, hfin, StorageMap.length_keys_insert _ hb, List.filter_append, List.filter_cons_of_pos
      (isQuorumEvent_quorumEvent _ _ _ _), hsys, List.length_append, List.length_singleton,
      hi.quorum_events]

/-- A successful submission keeps the invariant. -/
theorem finalityInv_submitDataInner {origin : Origin Acc} {t : TableIdentifier} {b : BatchId}
    {d : RowData} {bn : Option UInt64} {s s' : Runtime Acc H C} (hi : FinalityInv s)
    (h : submitDataInner env origin t b d bn s = .ok s') : FinalityInv s' := by
  obtain ⟨who, -, hb, r₁, s₁, r₂, s₂, h₁, h₂, hfin⟩ := submitDataInner_ok env h
  obtain ⟨hi₁, hf₁, hr₁⟩ := finalityInv_countInScope hi hb h₁
  obtain ⟨hi₂, hf₂, hr₂⟩ := finalityInv_countInScope hi₁ (hf₁ ▸ hb) h₂
  rcases hfin with ⟨-, rfl⟩ | ⟨dq, hdq, hfinal⟩
  · exact hi₂
  · -- the decision is the first scope's, or else the second's: either names the call's batch
    have hbatch : dq.batchId = b := by
      rcases Option.or_eq_some_iff.mp hdq with h₁' | ⟨-, h₂'⟩
      · exact hr₁ dq h₁'
      · exact hr₂ dq h₂'
    exact finalityInv_finalize env hi₂ (by rw [hbatch, hf₂, hf₁]; exact hb) hfinal

theorem finalityInv_step : Stable (Step env) (fun s : Runtime Acc H C => FinalityInv s) := by
  intro s s' hi hstep
  cases hstep with
  | call origin c =>
    obtain ⟨d, bn, hrun⟩ := c.run_eq env origin
    rw [hrun]
    exact dispatch_preserves FinalityInv (fun _ _ hi h => finalityInv_submitDataInner env hi h) s hi
  | other _ _ hu =>
    obtain ⟨hsub, hfin, hev⟩ := hu
    constructor
    · rw [hfin, hsub]
      exact hi.no_submissions
    · rw [hev, hfin]
      exact hi.quorum_events

theorem finalityInv_reachable {s : Runtime Acc H C} (hs : Reachable Init (Step env) s) : FinalityInv s :=
  Reachable.induction (fun _ => finalityInv_init) (finalityInv_step env) hs

/-- A recorded decision stays as it is: a successful submission only decides an undecided
batch, and a failed one writes nothing. -/
theorem lookup_finalData_step (b : BatchId) (q : DataQuorum Acc H) :
    Stable (Step env) (fun s : Runtime Acc H C => s.finalData.lookup b = some q) := by
  intro s s' hq hstep
  cases hstep with
  | call origin c =>
    obtain ⟨d, bn, hrun⟩ := c.run_eq env origin
    rw [hrun]
    refine dispatch_preserves (fun s : Runtime Acc H C => s.finalData.lookup b = some q)
      (fun s₀ s₁ hq h => ?_) s hq
    have hmem : b ∈ s₀.finalData := AList.lookup_isSome.mp (by rw [hq]; rfl)
    obtain ⟨hnew, hfin | ⟨dq, -, hfin⟩⟩ := finalData_submitDataInner env h
    · rw [hfin]
      exact hq
    · have hne : b ≠ c.batchId := fun heq => hnew (heq ▸ hmem)
      rw [hfin, AList.lookup_insert_ne hne]
      exact hq
  | other _ _ hu =>
    rw [hu.2.1]
    exact hq

/-- In every reachable state: a recorded decision stays as it is along every later run; a call
for a decided batch fails and leaves the state as it was, as late when the signer may submit
to the table and otherwise at the origin or permission check; a decided batch has no
submissions left; and there is one quorum event per decision. -/
theorem batch_decided_once {s : Runtime Acc H C} (hs : Reachable Init (Step env) s) :
    (∀ b q s', s.finalData.lookup b = some q → Relation.ReflTransGen (Step env) s s' →
      s'.finalData.lookup b = some q) ∧
    (∀ origin (c : Call), c.batchId ∈ s.finalData →
      dispatch (c.run env origin) s = s ∧
      ∃ e, c.run env origin s = .error (.error e) ∧
        (e = .Indexing .LateBatch ∨ e = .Indexing .UnauthorizedSubmitter ∨ e = .BadOrigin) ∧
        ∀ who, origin = .Signed who →
          (canSubmitForQuorum s origin c.table (s.tableInsertQuorums.getD c.table default) .Public ||
            canSubmitForQuorum s origin c.table (s.tableInsertQuorums.getD c.table default) .Privileged) = true →
          e = .Indexing .LateBatch) ∧
    (∀ b ∈ s.finalData, ∀ h, (b, h) ∉ s.submissions) ∧
    (s.indexingEvents.filter isQuorumEvent).length = s.finalData.keys.length := by
  have hi := finalityInv_reachable env hs
  refine ⟨fun b q s' hq hrun => (lookup_finalData_step env b q).reflTransGen hrun hq, ?_,
    hi.no_submissions, hi.quorum_events⟩
  intro origin c hb
  obtain ⟨d, bn, hrun⟩ := c.run_eq env origin
  rw [hrun]
  obtain ⟨e, he, hcases, hlate⟩ := submitDataInner_late env origin c.table d bn hb
  exact ⟨dispatch_of_error he, e, he, hcases, hlate⟩

theorem crossTableRun_decided_once :
    (crossTableRun.indexingEvents.filter isQuorumEvent).length = crossTableRun.finalData.keys.length ∧
      sampleBatch ∈ crossTableRun.finalData :=
  ⟨(batch_decided_once sampleEnv reachable_crossTableRun).2.2.2, by decide⟩

/-- After the batch is decided, a call for it by an account without permissions fails as
unauthorized, not as late. -/
theorem crossTableRun_late_call_unauthorized :
    Reachable Init (Step sampleEnv) crossTableRun ∧ sampleBatch ∈ crossTableRun.finalData ∧
      (Call.submitData tableA sampleBatch rowsOne).run sampleEnv (.Signed 3) crossTableRun =
        .error (.error (.Indexing .UnauthorizedSubmitter)) :=
  ⟨reachable_crossTableRun, by decide, Fallible.eq_error_of_fault? (by decide)⟩

end Indexing

end SxtNode
