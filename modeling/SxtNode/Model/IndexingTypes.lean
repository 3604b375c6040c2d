import SxtNode.Model.Core

/-!
# Submissions and quorums (`sxt-core::indexing`)

`SubmittersByScope` keeps, per quorum scope, the set of accounts that submitted one data hash
for one batch; each set is a `BoundedSet` of at most `MAX_SUBMITTERS`, so a set past the
bound cannot be built. `withSubmitter` is the bounded insertion into one scope, and a
`DataQuorum` records a decision.
-/

set_option autoImplicit false

namespace SxtNode

/-- `MAX_SUBMITTERS`. -/
def MAX_SUBMITTERS : ℕ := 32

variable (Acc : Type) [LinearOrder Acc]

/-- `SubmitterList`. -/
abbrev SubmitterList := BoundedSet Acc MAX_SUBMITTERS

/-- `SubmittersByScope`: the agreeing submitters of each scope. -/
structure SubmittersByScope where
  public' : SubmitterList Acc
  privileged : SubmitterList Acc

variable {Acc}

instance : Inhabited (SubmittersByScope Acc) := ⟨⟨default, default⟩⟩

namespace SubmittersByScope

/-- `of_scope`. -/
def ofScope (s : SubmittersByScope Acc) : QuorumScope → SubmitterList Acc
  | .Public => s.public'
  | .Privileged => s.privileged

/-- `len_of_scope`. -/
def lenOfScope (s : SubmittersByScope Acc) (q : QuorumScope) : ℕ := (s.ofScope q).len

/-- Replaces the list of one scope. -/
def setScope (s : SubmittersByScope Acc) (q : QuorumScope) (l : SubmitterList Acc) : SubmittersByScope Acc :=
  match q with
  | .Public => { s with public' := l }
  | .Privileged => { s with privileged := l }

/-- `with_submitter`: inserts into the list of scope `q`; on a full list returns the value
unchanged together with the submitter. -/
def withSubmitter (s : SubmittersByScope Acc) (submitter : Acc) (q : QuorumScope) :
    Except (SubmittersByScope Acc × Acc) (SubmittersByScope Acc) :=
  match (s.ofScope q).tryInsert submitter with
  | .ok l => .ok (s.setScope q l)
  | .error e => .error (s, e)

@[simp] theorem ofScope_setScope_same (s : SubmittersByScope Acc) (q : QuorumScope) (l : SubmitterList Acc) :
    (s.setScope q l).ofScope q = l := by
  cases q <;> rfl

theorem ofScope_setScope_ne (s : SubmittersByScope Acc) {q q' : QuorumScope} (l : SubmitterList Acc)
    (h : q' ≠ q) : (s.setScope q l).ofScope q' = s.ofScope q' := by
  cases q <;> cases q' <;> first | rfl | exact absurd rfl h

theorem withSubmitter_eq_ok {s s' : SubmittersByScope Acc} {who : Acc} {q : QuorumScope}
    (h : s.withSubmitter who q = .ok s') :
    (s.ofScope q).tryInsert who = .ok (s'.ofScope q) ∧ ∀ q', q' ≠ q → s'.ofScope q' = s.ofScope q' := by
  unfold withSubmitter at h
  split at h
  · rename_i l hl
    cases h
    exact ⟨by rw [ofScope_setScope_same]; exact hl, fun q' hq => ofScope_setScope_ne s l hq⟩
  · cases h

theorem withSubmitter_eq_error {s s'' : SubmittersByScope Acc} {who y : Acc} {q : QuorumScope}
    (h : s.withSubmitter who q = .error (s'', y)) : s'' = s ∧ (s.ofScope q).tryInsert who = .error y := by
  unfold withSubmitter at h
  split at h
  · cases h
  · rename_i e he
    cases h
    exact ⟨rfl, he⟩

@[simp] theorem ofScope_default (q : QuorumScope) : (default : SubmittersByScope Acc).ofScope q = default := by
  cases q <;> rfl

end SubmittersByScope

variable (Acc) (H : Type)

/-- `DataSubmission`: what a `DataSubmitted` event records. -/
structure DataSubmission where
  table : TableIdentifier
  batchId : BatchId
  dataHash : H
  quorumScope : QuorumScope
deriving DecidableEq

/-- `DataQuorum`: a decision on a batch. -/
structure DataQuorum where
  table : TableIdentifier
  batchId : BatchId
  dataHash : H
  blockNumber : ℕ
  agreements : SubmitterList Acc
  dissents : SubmitterList Acc
  quorumScope : QuorumScope
deriving DecidableEq

end SxtNode
