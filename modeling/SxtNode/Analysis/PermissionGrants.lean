import SxtNode.Lib.Authority
import SxtNode.Model.Permissions

/-!
# Who can come to hold a permission, and what the events record

A signed account hands out permission levels in two ways: with `UpdatePermissions` it sets any
account's list to anything (`set_permissions`), and with `EditSpecificPermission p` it adds `p`
to any account's list (`add_proxy_permission`). `Grants` is that relation between levels. It
reaches from a level `q` exactly the levels met by taking `EditSpecificPermission` off `q` one
wrapper at a time, and everything once `UpdatePermissions` is met (`reflTransGen_grants_iff`).
One extrinsic that no root origin dispatched adds to what the accounts hold only what a level
held before grants (`step_granted`); `SxtNode.RuntimePermissions` carries this over whole runs of
the runtime.

Each successful extrinsic writes one account's entry and reports the entry it wrote in its
`PermissionsSet` event, with the empty list for a removed entry. So the events a run deposits,
replayed over the first state's storage, give the last state's storage, whatever the origins
(`replay_run`); and no stored list is ever empty (`noEmptyLists_run`), which is why the replay can
read an empty list as a removal.
-/

set_option autoImplicit false

namespace SxtNode

/-- The levels met by taking `EditSpecificPermission` off a level one wrapper at a time, the
level itself first. -/
def PermissionLevel.unwrap : PermissionLevel → List PermissionLevel
  | .EditSpecificPermission p => .EditSpecificPermission p :: p.unwrap
  | p => [p]

theorem PermissionLevel.mem_unwrap_self (q : PermissionLevel) : q ∈ q.unwrap := by
  cases q <;> simp [unwrap]

/-- Below a wrapped level in the chain comes the level it wraps. -/
theorem PermissionLevel.mem_unwrap_of_edit_mem {q p : PermissionLevel}
    (h : .EditSpecificPermission p ∈ q.unwrap) : p ∈ q.unwrap := by
  induction q with
  | EditSpecificPermission r ih =>
    simp only [unwrap, List.mem_cons, PermissionLevel.EditSpecificPermission.injEq] at h ⊢
    rcases h with rfl | h
    · exact .inr (mem_unwrap_self p)
    · exact .inr (ih h)
  | _ => simp [unwrap] at h

namespace PermissionsPallet

variable {Acc : Type} [DecidableEq Acc]

/-! ## The grant relation -/

/-- Holding `q` lets a signed account give `p` to any account: `UpdatePermissions` through
`set_permissions`, `EditSpecificPermission p` through `add_proxy_permission`. -/
def Grants (q p : PermissionLevel) : Prop :=
  q = .UpdatePermissions ∨ q = .EditSpecificPermission p

theorem reflTransGen_of_mem_unwrap {q r : PermissionLevel} (h : r ∈ q.unwrap) :
    Relation.ReflTransGen Grants q r := by
  induction q with
  | EditSpecificPermission p ih =>
    simp only [PermissionLevel.unwrap, List.mem_cons] at h
    rcases h with rfl | h
    · exact .refl
    · exact .head (.inr rfl) (ih h)
  | _ =>
    simp only [PermissionLevel.unwrap, List.mem_singleton] at h
    subst h
    exact .refl

/-- A chain of grants from `q` unwraps `q`, unless it meets `UpdatePermissions`, after which it
may go anywhere. -/
theorem reflTransGen_grants_iff {q p : PermissionLevel} :
    Relation.ReflTransGen Grants q p ↔ p ∈ q.unwrap ∨ .UpdatePermissions ∈ q.unwrap := by
  constructor
  · intro h
    induction h with
    | refl => exact .inl (PermissionLevel.mem_unwrap_self q)
    | tail _ hgrant ih =>
      rcases ih with hr | hupdate
      · rcases hgrant with rfl | rfl
        · exact .inr hr
        · exact .inl (PermissionLevel.mem_unwrap_of_edit_mem hr)
      · exact .inr hupdate
  · rintro (hp | hupdate)
    · exact reflTransGen_of_mem_unwrap hp
    · exact (reflTransGen_of_mem_unwrap hupdate).tail (.inl rfl)

/-! ## What the accounts hold -/

omit [DecidableEq Acc] in
/-- `has_permissions` reads the account's list, an absent entry as the empty list. -/
theorem hasPermissions_eq_contains (perms : Permissions Acc) (who : Acc) (p : PermissionLevel) :
    hasPermissions perms who p = ((perms who).getD default).toList.contains p := by
  unfold hasPermissions
  cases perms who <;> rfl

theorem hasPermissions_update_ne {perms : Permissions Acc} {who a : Acc} (o : Option PermissionList)
    (h : a ≠ who) (p : PermissionLevel) :
    hasPermissions (Function.update perms who o) a p = hasPermissions perms a p := by
  rw [hasPermissions_eq_contains, hasPermissions_eq_contains, Function.update_of_ne h]

theorem hasPermissions_update_self (perms : Permissions Acc) (who : Acc) (o : Option PermissionList)
    (p : PermissionLevel) : hasPermissions (Function.update perms who o) who p = (o.getD default).toList.contains p := by
  rw [hasPermissions_eq_contains, Function.update_self]

/-- The levels some account holds. -/
def held (perms : Permissions Acc) : Set PermissionLevel :=
  {p | ∃ who, hasPermissions perms who p = true}

/-- The origins other than root. -/
def NonRoot (origin : Origin Acc) : Prop := origin ≠ .Root

omit [DecidableEq Acc] in
/-- A non-root origin that may grant with `q` is a signed account holding `q`. -/
theorem Permitted.held {s : State Acc} {origin : Origin Acc} {q : PermissionLevel} (h : Permitted s origin q)
    (hroot : NonRoot origin) : q ∈ held s.permissions := by
  rcases h with rfl | ⟨who, -, hwho⟩
  · exact absurd rfl hroot
  · exact ⟨who, hwho⟩

/-- After a write of `who`'s entry, a level an account holds was held before, or is in the
written list. -/
theorem held_update {perms : Permissions Acc} {who a : Acc} {o : Option PermissionList} {p : PermissionLevel}
    (h : hasPermissions (Function.update perms who o) a p = true) :
    hasPermissions perms a p = true ∨ p ∈ (o.getD default).toList := by
  by_cases ha : a = who
  · subst ha
    rw [hasPermissions_update_self] at h
    exact .inr (List.contains_iff_mem.mp h)
  · rw [hasPermissions_update_ne o ha] at h
    exact .inl h

/-- One step: an extrinsic that no root origin dispatched adds to what accounts hold only what a
level held before grants. -/
theorem step_granted {s s' : State Acc} (h : Step NonRoot s s') :
    Authority.Granted Grants (held s.permissions) (held s'.permissions) := by
  obtain ⟨origin, hroot, c, s⟩ := h
  cases hrun : c.run origin s with
  | error e =>
    rw [dispatch_of_error hrun]
    exact Authority.Granted.of_subset le_rfl
  | ok s' =>
    rw [dispatch_of_ok hrun]
    rintro p ⟨a, ha⟩
    cases c with
    | setPermissions who l =>
      -- every level of the new list is granted by the signer's `UpdatePermissions`
      obtain ⟨hpermitted, -, rfl⟩ := setPermissions_eq_ok hrun
      rcases held_update ha with hp | -
      · exact .inl ⟨a, hp⟩
      · exact .inr ⟨_, hpermitted.held hroot, .inl rfl⟩
    | clearPermissions who =>
      obtain ⟨-, rfl⟩ := clearPermissions_eq_ok hrun
      rcases held_update ha with hp | hp
      · exact .inl ⟨a, hp⟩
      · simp at hp
    | addProxyPermission proxy q =>
      -- the new list is the proxy's old one and `q`, which the signer's `EditSpecificPermission q` grants
      obtain ⟨hpermitted, -, l, hl, rfl⟩ := addProxyPermission_eq_ok hrun
      rcases held_update ha with hp | hp
      · exact .inl ⟨a, hp⟩
      · rw [Option.getD_some, hl, List.mem_append, List.mem_singleton] at hp
        rcases hp with hp | rfl
        · exact .inl ⟨proxy, by rw [hasPermissions_eq_contains]; exact List.contains_iff_mem.mpr hp⟩
        · exact .inr ⟨_, hpermitted.held hroot, .inr rfl⟩

/-! ## The storage and its events -/

/-- What a `PermissionsSet` event reports: the account's entry is now the event's list, where an
empty list is a removed entry. -/
def Event.apply (perms : Permissions Acc) : Event Acc → Permissions Acc
  | .PermissionsSet who l => Function.update perms who (if l.toList.isEmpty then none else some l)

/-- No account's entry is an empty list. -/
def NoEmptyLists (perms : Permissions Acc) : Prop :=
  ∀ who l, perms who = some l → l.toList ≠ []

/-- Every successful extrinsic writes one account's entry, with a nonempty list or with nothing,
and reports what it wrote. -/
theorem Call.run_eq_ok_write {origin : Origin Acc} {c : Call Acc} {s s' : State Acc} (h : c.run origin s = .ok s') :
    ∃ who o, (∀ l, o = some l → l.toList ≠ []) ∧ s'.permissions = Function.update s.permissions who o ∧
      s'.events = s.events ++ [.PermissionsSet who (o.getD default)] := by
  cases c with
  | setPermissions who l =>
    obtain ⟨-, hne, rfl⟩ := setPermissions_eq_ok h
    exact ⟨who, some l, fun _ hl => Option.some_inj.mp hl ▸ hne, rfl, rfl⟩
  | clearPermissions who =>
    obtain ⟨-, rfl⟩ := clearPermissions_eq_ok h
    exact ⟨who, none, (fun _ hl => nomatch hl), rfl, rfl⟩
  | addProxyPermission proxy p =>
    -- the stored list ends with the level just added
    obtain ⟨-, -, l, hl, rfl⟩ := addProxyPermission_eq_ok h
    refine ⟨proxy, some l, fun _ hl' => ?_, rfl, rfl⟩
    cases hl'
    simp [hl]

/-- Replaying what a write reports gives back the write. -/
theorem apply_write (perms : Permissions Acc) (who : Acc) {o : Option PermissionList}
    (ho : ∀ l, o = some l → l.toList ≠ []) :
    Event.apply perms (.PermissionsSet who (o.getD default)) = Function.update perms who o := by
  cases o with
  | none => rfl
  | some l =>
    have hl : l.toList.isEmpty = false := List.isEmpty_eq_false_iff.mpr (ho l rfl)
    simp only [Event.apply, Option.getD_some, hl, Bool.false_eq_true, if_false]

theorem step_replay {origins : Origin Acc → Prop} {s s' : State Acc} (h : Step origins s s') :
    ∃ new, s'.events = s.events ++ new ∧ s'.permissions = new.foldl Event.apply s.permissions := by
  obtain ⟨origin, -, c, s⟩ := h
  cases hrun : c.run origin s with
  | error e =>
    rw [dispatch_of_error hrun]
    exact ⟨[], (List.append_nil _).symm, rfl⟩
  | ok s' =>
    rw [dispatch_of_ok hrun]
    obtain ⟨who, o, ho, hperms, hevents⟩ := Call.run_eq_ok_write hrun
    refine ⟨[.PermissionsSet who (o.getD default)], hevents, ?_⟩
    rw [List.foldl_cons, List.foldl_nil, apply_write _ _ ho, hperms]

/-- The events a run deposits, replayed in order over the storage it started from, give the
storage it ends with, whatever origins dispatched its extrinsics. -/
theorem replay_run {origins : Origin Acc → Prop} {s₀ s : State Acc}
    (hrun : Relation.ReflTransGen (Step origins) s₀ s) :
    ∃ new, s.events = s₀.events ++ new ∧ s.permissions = new.foldl Event.apply s₀.permissions := by
  induction hrun with
  | refl => exact ⟨[], (List.append_nil _).symm, rfl⟩
  | tail _ hlast ih =>
    obtain ⟨new, hevents, hperms⟩ := ih
    obtain ⟨new', hevents', hperms'⟩ := step_replay hlast
    refine ⟨new ++ new', ?_, ?_⟩
    · rw [hevents', hevents, List.append_assoc]
    · rw [hperms', hperms, List.foldl_append]

/-- Account 0 may hand out `EditSpecificPermission (TablesPallet EditSchema)`; no other account
holds anything. -/
def delegationStart : State ℕ where
  permissions := Function.update (fun _ => none) 0
    (some ⟨[.EditSpecificPermission (.EditSpecificPermission (.TablesPallet .EditSchema))], by simp⟩)
  events := []

/-- Account 0 lets account 1 hand out `EditSchema`, and account 1 gives it to account 2. -/
def delegationEnd : State ℕ :=
  dispatch ((Call.addProxyPermission 2 (.TablesPallet .EditSchema)).run (.Signed 1))
    (dispatch ((Call.addProxyPermission 1 (.EditSpecificPermission (.TablesPallet .EditSchema))).run (.Signed 0))
      delegationStart)

theorem delegationRun : Relation.ReflTransGen (Step NonRoot) delegationStart delegationEnd :=
  .tail (.single (.call (.Signed 0) (by simp [NonRoot]) _ _)) (.call (.Signed 1) (by simp [NonRoot]) _ _)

theorem delegationRun_replays : ∃ new, delegationEnd.events = delegationStart.events ++ new ∧
    delegationEnd.permissions = new.foldl Event.apply delegationStart.permissions :=
  replay_run delegationRun

theorem noEmptyLists_stable {origins : Origin Acc → Prop} :
    Stable (Step origins) (fun s : State Acc => NoEmptyLists s.permissions) := by
  rintro s s' hs ⟨origin, -, c, s⟩
  cases hrun : c.run origin s with
  | error e =>
    rw [dispatch_of_error hrun]
    exact hs
  | ok s' =>
    rw [dispatch_of_ok hrun]
    obtain ⟨who, o, ho, hperms, -⟩ := Call.run_eq_ok_write hrun
    intro a l hl
    rw [hperms] at hl
    by_cases ha : a = who
    · subst ha
      rw [Function.update_self] at hl
      exact ho l hl
    · rw [Function.update_of_ne ha] at hl
      exact hs a l hl

/-- No run stores an empty list: `set_permissions` refuses one and `clear_permissions` removes the
entry instead. -/
theorem noEmptyLists_run {origins : Origin Acc → Prop} {s₀ s : State Acc}
    (hrun : Relation.ReflTransGen (Step origins) s₀ s) (h₀ : NoEmptyLists s₀.permissions) :
    NoEmptyLists s.permissions :=
  noEmptyLists_stable.reflTransGen hrun h₀

theorem delegationStart_noEmptyLists : NoEmptyLists delegationStart.permissions := by
  intro who l h
  by_cases hwho : who = 0
  · subst hwho
    simp only [delegationStart, Function.update_self, Option.some.injEq] at h
    subst h
    simp
  · simp [delegationStart, Function.update_of_ne hwho] at h

theorem delegationRun_noEmptyLists : NoEmptyLists delegationEnd.permissions :=
  noEmptyLists_run delegationRun delegationStart_noEmptyLists

end PermissionsPallet

end SxtNode
