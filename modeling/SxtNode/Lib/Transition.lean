import Mathlib.Data.List.Forall2
import Mathlib.Logic.Relation

/-!
# Transactional calls and reachable states

A call of a runtime either returns, or fails with an error it reports or with an abort (a
panic). A dispatched call that fails leaves no trace: its writes are rolled back, so the
state after it is the state before it. The states of a system are those reachable from an
initial state by steps; an invariant is proved once for the initial states and once per step,
and `Reachable.induction` turns that into a statement about every reachable state.
`Stable` is the same rule for a property that, once true, stays true. `ChangesThrough.run` is
the rule for a value that steps may set only from, or reset only to, a blank value: at the end
of a run it is unchanged, or it was blank on the way.
-/

set_option autoImplicit false

namespace List

variable {α β : Type} {R : α → β → Prop}

/-- Each element on the left of a relation between two lists is related to one on the right. -/
theorem Forall₂.exists_of_mem_left {l₁ : List α} {l₂ : List β} (h : Forall₂ R l₁ l₂) {a : α} (ha : a ∈ l₁) :
    ∃ b ∈ l₂, R a b := by
  induction h with
  | nil => cases ha
  | cons hab _ ih =>
    rcases List.mem_cons.mp ha with rfl | ha
    · exact ⟨_, List.mem_cons_self, hab⟩
    · obtain ⟨b, hb, hr⟩ := ih ha
      exact ⟨b, List.mem_cons_of_mem _ hb, hr⟩

/-- Each element on the right of a relation between two lists is related to one on the left. -/
theorem Forall₂.exists_of_mem_right {l₁ : List α} {l₂ : List β} (h : Forall₂ R l₁ l₂) {b : β} (hb : b ∈ l₂) :
    ∃ a ∈ l₁, R a b := by
  induction h with
  | nil => cases hb
  | cons hab _ ih =>
    rcases List.mem_cons.mp hb with rfl | hb
    · exact ⟨_, List.mem_cons_self, hab⟩
    · obtain ⟨a, ha, hr⟩ := ih hb
      exact ⟨a, List.mem_cons_of_mem _ ha, hr⟩

/-- A weaker test counts fewer elements of a list when some element passes only the stronger one. -/
theorem countP_lt_countP {p q : α → Bool} {l : List α} (hpq : ∀ x ∈ l, p x = true → q x = true) {a : α}
    (ha : a ∈ l) (hq : q a = true) (hp : p a = false) : l.countP p < l.countP q := by
  induction l with
  | nil => cases ha
  | cons b l ih =>
    have hle : l.countP p ≤ l.countP q := countP_mono_left fun x hx => hpq x (mem_cons_of_mem b hx)
    rw [countP_cons, countP_cons]
    rcases mem_cons.mp ha with rfl | ha
    · rw [hp, hq]
      simp only [Bool.false_eq_true, if_false, if_true]
      omega
    -- `b` counts for `q` whenever it counts for `p`
    · have hlt := ih (fun x hx => hpq x (mem_cons_of_mem b hx)) ha
      have hb : (if p b = true then 1 else 0) ≤ (if q b = true then 1 else 0) := by
        by_cases hpb : p b = true
        · simp only [hpb, hpq b mem_cons_self hpb, if_true, Nat.le_refl]
        · rw [if_neg hpb]
          exact Nat.zero_le _
      omega

end List

/-- Why a call failed: an error it returned, or an abort with a message. -/
inductive Fault (ε : Type) where
  | error (e : ε)
  | panic (msg : String)
deriving DecidableEq, Repr

namespace Except

variable {ε ε' α β : Type}

/-- A bind returns `b` exactly when its first part returns some `a` and the continuation returns
`b` from it. -/
theorem bind_eq_ok_iff {x : Except ε α} {f : α → Except ε β} {b : β} :
    x >>= f = .ok b ↔ ∃ a, x = .ok a ∧ f a = .ok b := by
  cases x with
  | error e =>
    constructor
    · intro h
      cases h
    · rintro ⟨a, h, -⟩
      cases h
  | ok a =>
    constructor
    · intro h
      exact ⟨a, rfl, h⟩
    · rintro ⟨a', h, hf⟩
      cases h
      exact hf

theorem mapError_eq_ok_iff {x : Except ε α} {f : ε → ε'} {a : α} : x.mapError f = .ok a ↔ x = .ok a := by
  cases x <;> simp [Except.mapError]

end Except

/-- A computation that returns an `α` or fails with a `Fault ε`. -/
abbrev Fallible (ε α : Type) := Except (Fault ε) α

namespace Fallible

variable {ε α : Type}

/-- Fails with the error `e`. -/
def fail (e : ε) : Fallible ε α := .error (.error e)

/-- Fails with `e` unless `c` holds (FRAME's `ensure!`). -/
def ensure (c : Bool) (e : ε) : Fallible ε Unit := if c then .ok () else .error (.error e)

/-- Aborts with `msg` (Rust's `panic!`). -/
def abort (msg : String) : Fallible ε α := .error (.panic msg)

/-- Unwraps an option, aborting with `msg` on `none` (Rust's `Option::expect`). -/
def expect (o : Option α) (msg : String) : Fallible ε α :=
  match o with
  | some a => .ok a
  | none => .error (.panic msg)

/-- Unwraps a result, aborting with `msg` on an error (Rust's `Result::expect`). -/
def expectOk {ε' : Type} (r : Except ε' α) (msg : String) : Fallible ε α :=
  match r with
  | .ok a => .ok a
  | .error _ => .error (.panic msg)

/-- Fails with `e` on `none` (Rust's `Option::ok_or` followed by `?`). -/
def okOr (o : Option α) (e : ε) : Fallible ε α :=
  match o with
  | some a => .ok a
  | none => .error (.error e)

/-- Runs `f` on a present value (Rust's `Option::map` followed by `transpose` and `?`). -/
def traverseOption {β : Type} (o : Option α) (f : α → Fallible ε β) : Fallible ε (Option β) :=
  match o with
  | some a => (f a).map some
  | none => .ok none

/-- Lifts a result whose error type is `ε'` by mapping its error with `f`. -/
def ofExcept {ε' : Type} (f : ε' → ε) (r : Except ε' α) : Fallible ε α :=
  match r with
  | .ok a => .ok a
  | .error e => .error (.error (f e))

/-- Turns the errors of a computation into errors of another type, keeping its aborts. -/
def mapErr {ε' : Type} (f : ε → ε') (r : Fallible ε α) : Fallible ε' α :=
  match r with
  | .ok a => .ok a
  | .error (.error e) => .error (.error (f e))
  | .error (.panic m) => .error (.panic m)

/-- The fault a computation fails with, if it fails. -/
def fault? (r : Fallible ε α) : Option (Fault ε) :=
  match r with
  | .ok _ => none
  | .error f => some f

theorem eq_error_of_fault? {r : Fallible ε α} {f : Fault ε} (h : r.fault? = some f) : r = .error f := by
  cases r with
  | ok a => cases h
  | error f' =>
    cases h
    rfl

/-- The computation aborts. -/
def Panics (r : Fallible ε α) : Prop := ∃ m, r = .error (.panic m)

@[simp] theorem expect_some (a : α) (msg : String) : (expect (some a) msg : Fallible ε α) = .ok a :=
  rfl

@[simp] theorem expect_none (msg : String) : (expect none msg : Fallible ε α) = .error (.panic msg) :=
  rfl

@[simp] theorem ofExcept_ok {ε' : Type} (f : ε' → ε) (a : α) :
    (ofExcept f (.ok a : Except ε' α)) = .ok a := rfl

@[simp] theorem ofExcept_error {ε' : Type} (f : ε' → ε) (e : ε') :
    (ofExcept f (.error e : Except ε' α)) = .error (.error (f e)) := rfl

@[simp] theorem mapErr_ok {ε' : Type} (f : ε → ε') (a : α) : mapErr f (.ok a) = .ok a := rfl

@[simp] theorem mapErr_panic {ε' : Type} (f : ε → ε') (m : String) :
    (mapErr f (.error (.panic m) : Fallible ε α)) = .error (.panic m) := rfl

@[simp] theorem ok_bind {β : Type} (a : α) (f : α → Fallible ε β) : (Except.ok a >>= f : Fallible ε β) = f a := rfl

/-- A failed first part fails the bind, with its fault. -/
@[simp] theorem error_bind {β : Type} (e : Fault ε) (f : α → Fallible ε β) :
    (Except.error e >>= f : Fallible ε β) = .error e := rfl

/-- The bind of a fallible computation returns `b` exactly when its first part returns some `a`
and the continuation returns `b` from it. -/
theorem bind_eq_ok {β : Type} {x : Fallible ε α} {f : α → Fallible ε β} {b : β} :
    x >>= f = .ok b ↔ ∃ a, x = .ok a ∧ f a = .ok b :=
  Except.bind_eq_ok_iff

@[simp] theorem ensure_eq_ok {c : Bool} {e : ε} {u : Unit} : ensure c e = .ok u ↔ c = true := by
  cases c <;> simp [ensure]

theorem ensure_of_false {c : Bool} (e : ε) (h : c = false) : ensure c e = .error (.error e) := by
  simp [ensure, h]

theorem mapErr_eq_ok {ε' : Type} {f : ε → ε'} {r : Fallible ε α} {a : α} :
    mapErr f r = .ok a ↔ r = .ok a := by
  rcases r with (e | m) | a' <;> simp [mapErr]

@[simp] theorem expectOk_eq_ok {ε' : Type} {r : Except ε' α} {msg : String} {a : α} :
    (expectOk r msg : Fallible ε α) = .ok a ↔ r = .ok a := by
  cases r <;> simp [expectOk]

@[simp] theorem ofExcept_eq_ok {ε' : Type} {f : ε' → ε} {r : Except ε' α} {a : α} :
    ofExcept f r = .ok a ↔ r = .ok a := by
  cases r <;> simp [ofExcept]

theorem isSome_traverseOption {β : Type} {o : Option α} {f : α → Fallible ε β} {o' : Option β}
    (h : traverseOption o f = .ok o') : o'.isSome = o.isSome := by
  cases o with
  | none =>
    cases h
    rfl
  | some a =>
    simp only [traverseOption] at h
    cases hf : f a with
    | error e => simp [hf, Except.map] at h
    | ok b =>
      simp only [hf, Except.map, Except.ok.injEq] at h
      simp [← h]

@[simp] theorem okOr_eq_ok {o : Option α} {e : ε} {a : α} : okOr o e = .ok a ↔ o = some a := by
  cases o <;> simp [okOr]

/-- A traversal of a list that succeeds relates each element to its result. -/
theorem forall₂_of_mapM_eq_ok {ε' β : Type} {f : α → Except ε' β} {l : List α} {bs : List β}
    (h : l.mapM f = .ok bs) : List.Forall₂ (fun a b => f a = .ok b) l bs := by
  induction l generalizing bs with
  | nil =>
    cases h
    exact .nil
  | cons a l ih =>
    rw [List.mapM_cons] at h
    cases hf : f a with
    | error e =>
      rw [hf] at h
      cases h
    | ok b =>
      cases hl : l.mapM f with
      | error e =>
        rw [hf, hl] at h
        cases h
      | ok bs' =>
        rw [hf, hl] at h
        cases h
        exact .cons hf (ih hl)

/-- A traversal whose function gives each element a related result returns those results. -/
theorem mapM_eq_ok_of_forall₂ {ε' β : Type} {f : α → Except ε' β} {l : List α} {bs : List β}
    (h : List.Forall₂ (fun a b => f a = .ok b) l bs) : l.mapM f = .ok bs := by
  induction h with
  | nil => rfl
  | cons hab _ ih =>
    rw [List.mapM_cons, hab, ih]
    rfl

/-- A traversal succeeds when its function succeeds on each element, with results related to
the elements as the function's results are. -/
theorem exists_mapM_eq_ok {ε' β : Type} {f : α → Except ε' β} {P : α → β → Prop} {l : List α}
    (h : ∀ a ∈ l, ∃ b, f a = .ok b ∧ P a b) :
    ∃ bs, l.mapM f = .ok bs ∧ List.Forall₂ (fun a b => f a = .ok b ∧ P a b) l bs := by
  induction l with
  | nil => exact ⟨[], rfl, .nil⟩
  | cons a l ih =>
    obtain ⟨b, hb, hp⟩ := h a List.mem_cons_self
    obtain ⟨bs, -, hrel⟩ := ih fun a' ha' => h a' (List.mem_cons_of_mem _ ha')
    have hall : List.Forall₂ (fun a b => f a = .ok b ∧ P a b) (a :: l) (b :: bs) := .cons ⟨hb, hp⟩ hrel
    exact ⟨b :: bs, mapM_eq_ok_of_forall₂ (hall.imp fun _ _ h => h.1), hall⟩

/-- A computation that succeeds returns some value. -/
theorem exists_eq_ok_of_isOk {r : Fallible ε α} (h : r.isOk = true) : ∃ a, r = .ok a := by
  cases r with
  | error e => cases h
  | ok a => exact ⟨a, rfl⟩

/-- A traversal fails with the fault of the first element its function fails on. -/
theorem mapM_append_cons_eq_error {ε' β : Type} {f : α → Except ε' β} {pre rest : List α} {a : α} {e : ε'}
    (hpre : ∀ x ∈ pre, ∃ b, f x = .ok b) (ha : f a = .error e) : (pre ++ a :: rest).mapM f = .error e := by
  induction pre with
  | nil =>
    rw [List.nil_append, List.mapM_cons, ha]
    rfl
  | cons x pre ih =>
    obtain ⟨b, hb⟩ := hpre x List.mem_cons_self
    rw [List.cons_append, List.mapM_cons, hb, ih fun y hy => hpre y (List.mem_cons_of_mem _ hy)]
    rfl

/-- Every result of a traversal that succeeds is the result of an element of the list. -/
theorem exists_of_mem_mapM_eq_ok {ε' β : Type} {f : α → Except ε' β} {l : List α} {bs : List β}
    (h : l.mapM f = .ok bs) {b : β} (hb : b ∈ bs) : ∃ a ∈ l, f a = .ok b :=
  (forall₂_of_mapM_eq_ok h).exists_of_mem_right hb

/-- Every element of a list that a traversal succeeds on has its result among the traversal's. -/
theorem exists_mem_of_mapM_eq_ok {ε' β : Type} {f : α → Except ε' β} {l : List α} {bs : List β}
    (h : l.mapM f = .ok bs) {a : α} (ha : a ∈ l) : ∃ b ∈ bs, f a = .ok b :=
  (forall₂_of_mapM_eq_ok h).exists_of_mem_left ha

/-- A present result of `traverseOption` comes from a present value. -/
theorem traverseOption_eq_ok_some {β : Type} {o : Option α} {f : α → Fallible ε β} {b : β}
    (h : traverseOption o f = .ok (some b)) : ∃ a, o = some a ∧ f a = .ok b := by
  cases o with
  | none => cases h
  | some a =>
    refine ⟨a, rfl, ?_⟩
    simp only [traverseOption] at h
    cases hf : f a with
    | error e =>
      rw [hf] at h
      cases h
    | ok b' =>
      rw [hf] at h
      cases h
      rfl

/-! ### Processing a list while threading a state -/

section MapState

variable {σ β : Type}

/-- Runs `f` on each element in order, threading the state and collecting the results; the
first failure is the result (an iterator of fallible steps collected into a `Result`). -/
def mapState (f : α → σ → Fallible ε (β × σ)) : List α → σ → Fallible ε (List β × σ)
  | [], s => .ok ([], s)
  | a :: as, s => do
    let (b, s) ← f a s
    let (bs, s) ← mapState f as s
    pure (b :: bs, s)

theorem mapState_cons_eq_ok {f : α → σ → Fallible ε (β × σ)} {a : α} {as : List α} {s s' : σ}
    {bs : List β} (h : mapState f (a :: as) s = .ok (bs, s')) :
    ∃ b s₁ bs', f a s = .ok (b, s₁) ∧ mapState f as s₁ = .ok (bs', s') ∧ bs = b :: bs' := by
  simp only [mapState, bind_eq_ok] at h
  obtain ⟨⟨b, s₁⟩, h₁, ⟨bs', s₂⟩, h₂, h⟩ := h
  cases h
  exact ⟨b, s₁, bs', h₁, h₂, rfl⟩

/-- A property of states kept by every step is kept by the whole run. -/
theorem mapState_preserves {f : α → σ → Fallible ε (β × σ)} (P : σ → Prop)
    (hf : ∀ a s s' b, P s → f a s = .ok (b, s') → P s') {l : List α} {s s' : σ} {bs : List β}
    (h : mapState f l s = .ok (bs, s')) (hs : P s) : P s' := by
  induction l generalizing s bs with
  | nil =>
    cases h
    exact hs
  | cons a as ih =>
    obtain ⟨b, s₁, bs', h₁, h₂, -⟩ := mapState_cons_eq_ok h
    exact ih h₂ (hf a s s₁ b hs h₁)

/-- What the step for an element establishes, and every later step keeps, holds at the end
for every element. -/
theorem mapState_forall {f : α → σ → Fallible ε (β × σ)} (Q : α → σ → Prop)
    (hstep : ∀ a s s' b, f a s = .ok (b, s') → Q a s')
    (hkeep : ∀ a' a s s' b, Q a' s → f a s = .ok (b, s') → Q a' s')
    {l : List α} {s s' : σ} {bs : List β} (h : mapState f l s = .ok (bs, s')) : ∀ a ∈ l, Q a s' := by
  induction l generalizing s bs with
  | nil => simp
  | cons a as ih =>
    obtain ⟨b, s₁, bs', h₁, h₂, -⟩ := mapState_cons_eq_ok h
    intro a' ha'
    rcases List.mem_cons.mp ha' with rfl | ha'
    · exact mapState_preserves (Q a') (fun x s s' b hq hx => hkeep a' x s s' b hq hx) h₂
        (hstep a' s s₁ b h₁)
    · exact ih h₂ a' ha'

end MapState

end Fallible

section Dispatch

variable {σ ε : Type}

/-- The state after a dispatched call: the call's final state when it returns, the state
before the call when it fails, since the writes of a failed call are rolled back. -/
def dispatch (f : σ → Fallible ε σ) (s : σ) : σ :=
  match f s with
  | .ok s' => s'
  | .error _ => s

theorem dispatch_of_ok {f : σ → Fallible ε σ} {s s' : σ} (h : f s = .ok s') : dispatch f s = s' := by
  simp [dispatch, h]

theorem dispatch_of_error {f : σ → Fallible ε σ} {s : σ} {e : Fault ε} (h : f s = .error e) :
    dispatch f s = s := by
  simp [dispatch, h]

/-- A call that succeeds returns the state its dispatch ends in. -/
theorem eq_ok_dispatch {f : σ → Fallible ε σ} {s : σ} (h : (f s).isOk = true) : f s = .ok (dispatch f s) := by
  unfold dispatch
  split
  · rename_i s' hf
    exact hf
  · rename_i e hf
    rw [hf] at h
    cases h

/-- A property of states kept by every successful run of a call is kept by its dispatch. -/
theorem dispatch_preserves {f : σ → Fallible ε σ} (P : σ → Prop)
    (h : ∀ s s', P s → f s = .ok s' → P s') (s : σ) (hs : P s) : P (dispatch f s) := by
  unfold dispatch
  split
  · rename_i s' hf
    exact h s s' hs hf
  · exact hs

end Dispatch

namespace EStateM

variable {ε σ α β : Type}

/-! ## Calls without a storage layer

In `EStateM` an error keeps the state it was raised in: a sequence of calls that fails part way
keeps what the calls before the failure did. -/

/-- After a computation returns, its continuation runs from the state it returned in. -/
theorem bind_apply_ok {x : EStateM ε σ α} {f : α → EStateM ε σ β} {s s' : σ} {a : α}
    (h : x s = .ok a s') : (x >>= f) s = f a s' := by
  show EStateM.bind x f s = f a s'
  simp only [EStateM.bind, h]

/-- After a computation fails, the sequence fails with its error and keeps its state. -/
theorem bind_apply_error {x : EStateM ε σ α} {f : α → EStateM ε σ β} {s s' : σ} {e : ε}
    (h : x s = .error e s') : (x >>= f) s = .error e s' := by
  show EStateM.bind x f s = .error e s'
  simp only [EStateM.bind, h]

/-- A read of the state continues from the state it read. -/
theorem get_bind_apply {f : σ → EStateM ε σ β} {s : σ} : (MonadState.get >>= f) s = f s s :=
  rfl

/-- The state a computation ends in, whether it returned or failed. -/
def Result.state : Result ε σ α → σ
  | .ok _ s => s
  | .error _ s => s

/-- From every state, `x` ends in a state that `R` relates to the one it started in, whether it
returns or fails. -/
def Keeps (R : σ → σ → Prop) (x : EStateM ε σ α) : Prop := ∀ s, R s (x s).state

section Keeps

variable {R : σ → σ → Prop}

theorem Keeps.throw [Std.Refl R] (e : ε) : Keeps R (throw e : EStateM ε σ α) :=
  fun s => refl_of R s

theorem Keeps.get [Std.Refl R] : Keeps R (get : EStateM ε σ σ) :=
  fun s => refl_of R s

theorem Keeps.modify {f : σ → σ} (h : ∀ s, R s (f s)) : Keeps R (modify f : EStateM ε σ PUnit) :=
  h

/-- A sequence keeps `R` when its first computation and every continuation do: the rule that
carries a frame property through a `do` block. -/
theorem Keeps.bind [IsTrans σ R] {x : EStateM ε σ α} {f : α → EStateM ε σ β} (hx : Keeps R x)
    (hf : ∀ a, Keeps R (f a)) : Keeps R (x >>= f) := by
  intro s
  have hxs := hx s
  cases hrun : x s with
  | ok a s' =>
    rw [hrun] at hxs
    rw [bind_apply_ok hrun]
    exact trans_of R hxs (hf a s')
  | error e s' =>
    rw [hrun] at hxs
    rw [bind_apply_error hrun]
    exact hxs

theorem Keeps.mono {R' : σ → σ → Prop} (h : ∀ s s', R s s' → R' s s') {x : EStateM ε σ α}
    (hx : Keeps R x) : Keeps R' x :=
  fun s => h _ _ (hx s)

end Keeps

end EStateM

section Reachable

variable {σ : Type}

/-- The states reachable from a state satisfying `init` by a sequence of `step`s. -/
def Reachable (init : σ → Prop) (step : σ → σ → Prop) (s : σ) : Prop :=
  ∃ s₀, init s₀ ∧ Relation.ReflTransGen step s₀ s

/-- A property that, once true of a state, is true of every state one step later. -/
def Stable (step : σ → σ → Prop) (P : σ → Prop) : Prop :=
  ∀ s s', P s → step s s' → P s'

variable {init : σ → Prop} {step : σ → σ → Prop}

theorem Reachable.of_init {s : σ} (h : init s) : Reachable init step s :=
  ⟨s, h, Relation.ReflTransGen.refl⟩

theorem Reachable.tail {s s' : σ} (h : Reachable init step s) (hs : step s s') :
    Reachable init step s' := by
  obtain ⟨s₀, h₀, hrun⟩ := h
  exact ⟨s₀, h₀, hrun.tail hs⟩

/-- A stable property holds at the end of every run that starts where it holds. -/
theorem Stable.reflTransGen {P : σ → Prop} (hP : Stable step P) {s s' : σ}
    (hrun : Relation.ReflTransGen step s s') (hs : P s) : P s' := by
  induction hrun with
  | refl => exact hs
  | tail _ hlast ih => exact hP _ _ ih hlast

theorem Stable.and {P Q : σ → Prop} (hP : Stable step P) (hQ : Stable step Q) :
    Stable step (fun s => P s ∧ Q s) :=
  fun s s' h hs => ⟨hP s s' h.1 hs, hQ s s' h.2 hs⟩

/-- The invariant rule: a property of the initial states that every step keeps holds in every
reachable state. -/
theorem Reachable.induction {I : σ → Prop} (hinit : ∀ s, init s → I s) (hstep : Stable step I)
    {s : σ} (h : Reachable init step s) : I s := by
  obtain ⟨s₀, h₀, hrun⟩ := h
  exact hstep.reflTransGen hrun (hinit s₀ h₀)

end Reachable

section Through

variable {σ β : Type}

/-- A step that changes `obs` only from `blank` or to `blank`. -/
def ChangesThrough (obs : σ → β) (blank : β) (s s' : σ) : Prop :=
  obs s' = obs s ∨ obs s = blank ∨ obs s' = blank

variable {obs : σ → β} {blank : β} {step : σ → σ → Prop}

/-- The run rule for `ChangesThrough`: at the end of a run of such steps, `obs` has the value it
started with, or some state of the run has `obs` blank. -/
theorem ChangesThrough.run (hstep : ∀ s s', step s s' → ChangesThrough obs blank s s') {s₀ s : σ}
    (hrun : Relation.ReflTransGen step s₀ s) :
    obs s = obs s₀ ∨
      ∃ s₁, Relation.ReflTransGen step s₀ s₁ ∧ Relation.ReflTransGen step s₁ s ∧ obs s₁ = blank := by
  induction hrun with
  | refl => exact .inl rfl
  | tail hfirst hlast ih =>
    rcases hstep _ _ hlast with hkeep | hfrom | hto
    · -- the last step keeps `obs`, so what held before it holds after it
      rcases ih with hsame | ⟨s₁, h₀₁, h₁, hblank⟩
      · exact .inl (hkeep.trans hsame)
      · exact .inr ⟨s₁, h₀₁, h₁.tail hlast, hblank⟩
    · exact .inr ⟨_, hfirst, .single hlast, hfrom⟩
    · exact .inr ⟨_, hfirst.tail hlast, .refl, hto⟩

end Through
