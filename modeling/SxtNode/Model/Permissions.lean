import SxtNode.Model.Core

/-!
# The permissions pallet

`pallet_permissions` keeps, for each account, the list of permission levels it holds, at most
32 of them. Three extrinsics write it. `set_permissions` replaces an account's list and
`clear_permissions` removes it, both for root or a holder of `UpdatePermissions`;
`add_proxy_permission` appends one level to an account's list, for root or a holder of
`EditSpecificPermission` of that very level. Each successful call deposits `PermissionsSet` with
the account and the list it now has. The other pallets read the lists through
`has_permissions` and `ensure_root_or_permissioned` (`SxtNode.hasPermissions`,
`SxtNode.ensureRootOrPermissioned`); no other pallet writes them.

`add_proxy_permission` mutates the entry inside `try_mutate`, which stores the closure's
mutation only when the closure returns `Ok`; the model writes on the successful branch only.
-/

set_option autoImplicit false

namespace SxtNode

/-- `PermissionList`. -/
abbrev PermissionList := BoundedVec PermissionLevel 32

namespace PermissionsPallet

/-- `pallet_permissions::Error`. -/
inductive Error where
  | InsufficientPermissions
  | EmptyPermissionsListError
  | UnsignedTransaction
  | PermissionsBadOrigin
  | PermissionAlreadyExists
  | PermissionListFull
deriving DecidableEq, Repr

/-- An origin check's error as the pallet's own. `ensure_root_or_permissioned` fails with
`InsufficientPermissions` or `UnsignedTransaction` only, so the first arm is never taken. -/
def Error.ofOrigin : OriginError → Error
  | .BadOrigin => .PermissionsBadOrigin
  | .InsufficientPermissions => .InsufficientPermissions
  | .UnsignedTransaction => .UnsignedTransaction

/-- `pallet_permissions::Event`. -/
inductive Event (Acc : Type) where
  | PermissionsSet (who : Acc) (permissions : PermissionList)

/-- The pallet's storage, `Permissions`, and the events it has deposited, in order. -/
structure State (Acc : Type) where
  permissions : Permissions Acc
  events : List (Event Acc)

variable {Acc : Type} [DecidableEq Acc]

/-- `Permissions::<T>::insert`. -/
def insert (s : State Acc) (who : Acc) (permissions : PermissionList) : State Acc :=
  { s with permissions := Function.update s.permissions who (some permissions) }

/-- `Permissions::<T>::remove`. -/
def remove (s : State Acc) (who : Acc) : State Acc :=
  { s with permissions := Function.update s.permissions who none }

omit [DecidableEq Acc] in
/-- `Self::deposit_event`. -/
def deposit (s : State Acc) (event : Event Acc) : State Acc :=
  { s with events := s.events ++ [event] }

@[simp] theorem insert_permissions (s : State Acc) (who : Acc) (l : PermissionList) :
    (insert s who l).permissions = Function.update s.permissions who (some l) := rfl

@[simp] theorem insert_events (s : State Acc) (who : Acc) (l : PermissionList) :
    (insert s who l).events = s.events := rfl

@[simp] theorem remove_permissions (s : State Acc) (who : Acc) :
    (remove s who).permissions = Function.update s.permissions who none := rfl

@[simp] theorem remove_events (s : State Acc) (who : Acc) : (remove s who).events = s.events := rfl

omit [DecidableEq Acc] in
@[simp] theorem deposit_permissions (s : State Acc) (e : Event Acc) :
    (deposit s e).permissions = s.permissions := rfl

omit [DecidableEq Acc] in
@[simp] theorem deposit_events (s : State Acc) (e : Event Acc) : (deposit s e).events = s.events ++ [e] := rfl

/-- `set_permissions`. -/
def setPermissions (origin : Origin Acc) (who : Acc) (permissions : PermissionList) (s : State Acc) :
    Fallible Error (State Acc) := do
  let _ ← Fallible.ofExcept Error.ofOrigin (ensureRootOrPermissioned s.permissions origin .UpdatePermissions)
  Fallible.ensure (decide (permissions.toList.length > 0)) .EmptyPermissionsListError
  pure (deposit (insert s who permissions) (.PermissionsSet who permissions))

/-- `clear_permissions`: the event carries the default, empty, list. -/
def clearPermissions (origin : Origin Acc) (who : Acc) (s : State Acc) : Fallible Error (State Acc) := do
  let _ ← Fallible.ofExcept Error.ofOrigin (ensureRootOrPermissioned s.permissions origin .UpdatePermissions)
  let permissions : PermissionList := default
  pure (deposit (remove s who) (.PermissionsSet who permissions))

/-- `add_proxy_permission`: an account without an entry starts from the default, empty, list
(`get_or_insert_with`); a level already held or a full list fails the call. -/
def addProxyPermission (origin : Origin Acc) (proxy : Acc) (permission : PermissionLevel) (s : State Acc) :
    Fallible Error (State Acc) := do
  let _ ← Fallible.ofExcept Error.ofOrigin
    (ensureRootOrPermissioned s.permissions origin (.EditSpecificPermission permission))
  let permissions := (s.permissions proxy).getD default
  if permissions.toList.contains permission then
    Fallible.fail .PermissionAlreadyExists
  else
    match permissions.tryPush permission with
    | .error _ => Fallible.fail .PermissionListFull
    | .ok permissions => pure (deposit (insert s proxy permissions) (.PermissionsSet proxy permissions))

/-- The pallet's extrinsics. -/
inductive Call (Acc : Type) where
  | setPermissions (who : Acc) (permissions : PermissionList)
  | clearPermissions (who : Acc)
  | addProxyPermission (proxy : Acc) (permission : PermissionLevel)

/-- Dispatching an extrinsic. -/
def Call.run (origin : Origin Acc) : Call Acc → State Acc → Fallible Error (State Acc)
  | .setPermissions who permissions => PermissionsPallet.setPermissions origin who permissions
  | .clearPermissions who => PermissionsPallet.clearPermissions origin who
  | .addProxyPermission proxy permission => PermissionsPallet.addProxyPermission origin proxy permission

/-- One step of the chain as the pallet sees it: an extrinsic of the pallet dispatched from an
origin that `origins` admits. -/
inductive Step (origins : Origin Acc → Prop) : State Acc → State Acc → Prop where
  | call (origin : Origin Acc) (h : origins origin) (c : Call Acc) (s : State Acc) :
      Step origins s (dispatch (c.run origin) s)

/-! ## What each extrinsic does

One lemma per extrinsic says everything a successful call did: the origin check it passed, the
guards it met, and the state it wrote. The analyses cite these and never unfold a call. -/

omit [DecidableEq Acc] in
/-- `ensure_root_or_permissioned` passes root, and a signed account that holds the level. -/
theorem ensureRootOrPermissioned_eq_ok {perms : Permissions Acc} {origin : Origin Acc} {p : PermissionLevel}
    {r : Option Acc} (h : ensureRootOrPermissioned perms origin p = .ok r) :
    origin = .Root ∨ ∃ who, origin = .Signed who ∧ hasPermissions perms who p = true := by
  cases origin with
  | Root => exact .inl rfl
  | Signed who => exact .inr ⟨who, rfl, ensureRootOrPermissioned_signed_ok h⟩
  | None => cases h

omit [DecidableEq Acc] in
/-- The origin check of a call, as it is lifted into the pallet's errors. -/
theorem ofExcept_ensureRootOrPermissioned_eq_ok {perms : Permissions Acc} {origin : Origin Acc}
    {p : PermissionLevel} {r : Option Acc}
    (h : Fallible.ofExcept Error.ofOrigin (ensureRootOrPermissioned perms origin p) = .ok r) :
    origin = .Root ∨ ∃ who, origin = .Signed who ∧ hasPermissions perms who p = true := by
  cases hcheck : ensureRootOrPermissioned perms origin p with
  | ok r' => exact ensureRootOrPermissioned_eq_ok hcheck
  | error e =>
    rw [hcheck] at h
    cases h

/-- `origin` may grant with `p` in `s`: root, or a signed holder of `p`. -/
def Permitted (s : State Acc) (origin : Origin Acc) (p : PermissionLevel) : Prop :=
  origin = .Root ∨ ∃ who, origin = .Signed who ∧ hasPermissions s.permissions who p = true

theorem setPermissions_eq_ok {origin : Origin Acc} {who : Acc} {l : PermissionList} {s s' : State Acc}
    (h : setPermissions origin who l s = .ok s') :
    Permitted s origin .UpdatePermissions ∧ l.toList ≠ [] ∧
      s' = deposit (insert s who l) (.PermissionsSet who l) := by
  obtain ⟨r, hcheck, h⟩ := Fallible.bind_eq_ok.mp h
  obtain ⟨u, hne, h⟩ := Fallible.bind_eq_ok.mp h
  have hlen : 0 < l.toList.length := by simpa using hne
  cases h
  exact ⟨ofExcept_ensureRootOrPermissioned_eq_ok hcheck, List.ne_nil_of_length_pos hlen, rfl⟩

theorem clearPermissions_eq_ok {origin : Origin Acc} {who : Acc} {s s' : State Acc}
    (h : clearPermissions origin who s = .ok s') :
    Permitted s origin .UpdatePermissions ∧ s' = deposit (remove s who) (.PermissionsSet who default) := by
  obtain ⟨r, hcheck, h⟩ := Fallible.bind_eq_ok.mp h
  cases h
  exact ⟨ofExcept_ensureRootOrPermissioned_eq_ok hcheck, rfl⟩

/-- A successful `add_proxy_permission` found the level missing from the proxy's list and room
for it, and stored the list with the level appended. -/
theorem addProxyPermission_eq_ok {origin : Origin Acc} {proxy : Acc} {p : PermissionLevel} {s s' : State Acc}
    (h : addProxyPermission origin proxy p s = .ok s') :
    Permitted s origin (.EditSpecificPermission p) ∧ hasPermissions s.permissions proxy p = false ∧
      ∃ l : PermissionList, l.toList = ((s.permissions proxy).getD default).toList ++ [p] ∧
        s' = deposit (insert s proxy l) (.PermissionsSet proxy l) := by
  obtain ⟨r, hcheck, h⟩ := Fallible.bind_eq_ok.mp h
  dsimp only at h
  split at h
  · cases h
  · rename_i hnew
    split at h
    · cases h
    · rename_i l hpush
      cases h
      have hheld : hasPermissions s.permissions proxy p = false := by
        unfold hasPermissions
        cases hproxy : s.permissions proxy with
        | none => rfl
        | some l' =>
          rw [hproxy] at hnew
          simpa using hnew
      exact ⟨ofExcept_ensureRootOrPermissioned_eq_ok hcheck, hheld, l,
        (BoundedVec.tryPush_eq_ok.mp hpush).2, rfl⟩

end PermissionsPallet

end SxtNode
