import Mathlib.Logic.Relation
import Mathlib.Data.Set.Basic

/-!
# Delegated authority

A system of capabilities in which holding `q` lets its holder hand out `p` whenever `grants q p`.
What can ever come to be held, from a set of held capabilities, is what a chain of grants reaches
from one of them: `Authority.Closure`. A step is `Authority.Granted` when all it adds is granted
by something held before it; `Authority.subset_closure_of_run` is the run rule, that a run of
granted steps never holds anything outside the closure of what its first state held. The closure
is closed (`closure_subset`), which is what lets the rule go step by step.
-/

set_option autoImplicit false

namespace Authority

variable {α σ : Type} (grants : α → α → Prop)

/-- The capabilities that a chain of grants reaches from a held one, the held ones included. -/
def Closure (held : Set α) : Set α :=
  {p | ∃ q ∈ held, Relation.ReflTransGen grants q p}

/-- Going from holding `held` to holding `held'` is granted when everything held after was held
before, or is granted by something held before. -/
def Granted (held held' : Set α) : Prop :=
  ∀ p ∈ held', p ∈ held ∨ ∃ q ∈ held, grants q p

variable {grants}

theorem subset_closure (held : Set α) : held ⊆ Closure grants held :=
  fun p hp => ⟨p, hp, .refl⟩

/-- What a chain of grants reaches from the closure is already in it. -/
theorem closure_subset {held held' : Set α} (h : held' ⊆ Closure grants held) :
    Closure grants held' ⊆ Closure grants held := by
  rintro p ⟨q, hq, hqp⟩
  obtain ⟨r, hr, hrq⟩ := h hq
  exact ⟨r, hr, hrq.trans hqp⟩

theorem Granted.subset_closure {held held' : Set α} (h : Granted grants held held') :
    held' ⊆ Closure grants held := by
  intro p hp
  rcases h p hp with hp | ⟨q, hq, hqp⟩
  · exact Authority.subset_closure held hp
  · exact ⟨q, hq, .single hqp⟩

/-- A step that only gives up capabilities is granted. -/
theorem Granted.of_subset {held held' : Set α} (h : held' ⊆ held) : Granted grants held held' :=
  fun _ hp => .inl (h hp)

/-- The run rule: when every step of `step` is granted, what the last state of a run holds is in
the closure of what its first state held. -/
theorem subset_closure_of_run {step : σ → σ → Prop} {held : σ → Set α}
    (hstep : ∀ s s', step s s' → Granted grants (held s) (held s')) {s₀ s : σ}
    (hrun : Relation.ReflTransGen step s₀ s) : held s ⊆ Closure grants (held s₀) := by
  induction hrun with
  | refl => exact subset_closure _
  | tail _ hlast ih =>
    -- the last step stays in the closure of the state before it, and that closure in the first's
    exact (hstep _ _ hlast).subset_closure.trans (closure_subset ih)

end Authority
