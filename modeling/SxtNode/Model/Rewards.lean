import SxtNode.Model.Runtime
import SxtNode.Lib.Saturating

/-!
# The rewards pallet (`pallet_rewards`)

At the start of every block, `on_initialize` pays out the era `NextPaidEra` once the staking
pallet's active era is past it. It walks the validators that earned points in that era, calls
`payout_stakers` for each one that still has rewards pending (checked in the state the calls
before it left), at most `MaxPayoutsPerBlock` times, and records the era as paid, moving
`NextPaidEra` on, in a block where it made no call. A payout that fails is only an event.

The hook's weight is meant to be summed in `total_weight`, but `Weight::saturating_add` returns
the sum and leaves `total_weight` as it was, and each sum is dropped. The model keeps each of
them, as a `let _ :=`, where the source computes it.

`pallet_staking` is third-party: `RewardsEnv` gives the functions the hook calls, over the
staking storage `σ`, and the runtime's constants. `payout_stakers` is transactional: when it
fails, the staking storage is as before.
-/

set_option autoImplicit false

namespace SxtNode

namespace Rewards

/-- `sp_staking::EraIndex`. -/
abbrev EraIndex := UInt32

/-! ## Weights -/

/-- `Weight`: reference time and proof size. -/
structure Weight where
  refTime : UInt64
  proofSize : UInt64
deriving DecidableEq, Repr

namespace Weight

/-- `Weight::zero`. -/
def zero : Weight := ⟨0, 0⟩

/-- `Weight::saturating_add`. -/
def saturatingAdd (a b : Weight) : Weight :=
  ⟨a.refTime.saturatingAdd b.refTime, a.proofSize.saturatingAdd b.proofSize⟩

/-- `Weight::saturating_mul`. -/
def saturatingMul (w : Weight) (b : UInt64) : Weight :=
  ⟨w.refTime.saturatingMul b, w.proofSize.saturatingMul b⟩

/-- `Weight::all_gte`. -/
def allGte (a b : Weight) : Bool :=
  decide (b.refTime ≤ a.refTime) && decide (b.proofSize ≤ a.proofSize)

theorem eq_zero_iff {w : Weight} : w = zero ↔ w.refTime = 0 ∧ w.proofSize = 0 := by
  cases w
  simp [zero]

@[simp]
theorem zero_refTime : zero.refTime = 0 := rfl

@[simp]
theorem zero_proofSize : zero.proofSize = 0 := rfl

/-- A saturating sum is zero only when both terms are. -/
theorem saturatingAdd_eq_zero_iff {a b : Weight} : a.saturatingAdd b = zero ↔ a = zero ∧ b = zero := by
  simp only [eq_zero_iff, saturatingAdd, UInt64.saturatingAdd_eq_zero_iff]
  tauto

end Weight

/-- `RuntimeDbWeight`, with the weight of a read. -/
structure RuntimeDbWeight where
  read : UInt64

/-- `RuntimeDbWeight::reads`. -/
def RuntimeDbWeight.reads (w : RuntimeDbWeight) (r : UInt64) : Weight :=
  ⟨w.read.saturatingMul r, 0⟩

/-- `Iterator::reduce`: the first item combined with each later one in turn; none for no
item. -/
def reduce {α : Type} (f : α → α → α) : List α → Option α
  | [] => none
  | a :: rest => some (rest.foldl f a)

/-- A saturating sum of weights that starts from a nonzero one is not zero. -/
theorem foldl_saturatingAdd_ne_zero {a : Weight} (ha : a ≠ Weight.zero) (l : List Weight) :
    l.foldl Weight.saturatingAdd a ≠ Weight.zero := by
  induction l generalizing a with
  | nil => exact ha
  | cons b rest ih =>
    exact ih (fun hsum => ha (Weight.saturatingAdd_eq_zero_iff.mp hsum).1)

/-! ## The pallet -/

/-- The staking pallet's functions the hook calls, over its storage `σ`, and the runtime's
constants. -/
structure RewardsEnv (Acc σ : Type) where
  /-- The index of `pallet_staking::Pallet::active_era`. -/
  activeEra : σ → Option EraIndex
  /-- The accounts of `eras_reward_points(era).individual`, in the map's order. -/
  erasRewardPoints : σ → EraIndex → List Acc
  /-- `EraInfo::pending_rewards(era, validator)`. -/
  pendingRewards : σ → EraIndex → Acc → Bool
  /-- `payout_stakers(Signed(payer), validator, era)`, failing with the `error` of its
  `DispatchErrorWithPostInfo`. -/
  payoutStakers : Acc → Acc → EraIndex → σ → Except DispatchError σ
  /-- `SubstrateWeight::payout_stakers_alive_staked`. -/
  payoutStakersAliveStaked : UInt32 → Weight
  /-- `T::MaxExposurePageSize`. -/
  maxExposurePageSize : UInt32
  /-- `T::DbWeight`. -/
  dbWeight : RuntimeDbWeight
  /-- `T::MaxPayoutsPerBlock`. -/
  maxPayoutsPerBlock : UInt32

/-- `pallet_rewards::Event`. -/
inductive Event (Acc : Type) where
  | EraPaid (index : EraIndex)
  | Payout (validator : Acc)
  | Status (currentEra payingEra : EraIndex)
  | PayoutError (validator : Acc) (error : DispatchError)
  | SetupError (error : DispatchError)
  | PayerUpdated (payer : Acc)
deriving DecidableEq, Repr

/-- `Error::<T>::NoPayerSet` as a dispatch error. -/
def noPayerSet : DispatchError := .Module "Rewards" "NoPayerSet"

/-- The staking storage, `NextPaidEra`, `PayerAccount`, and the events deposited. -/
structure State (Acc σ : Type) where
  external : σ
  nextPaidEra : EraIndex
  payerAccount : Option Acc
  events : List (Event Acc)

variable {Acc σ : Type} (env : RewardsEnv Acc σ)

/-- `Self::deposit_event`. -/
def deposit (s : State Acc σ) (event : Event Acc) : State Acc σ :=
  { s with events := s.events ++ [event] }

/-- `set_payer_account`: root sets the account that signs the payouts. -/
def setPayerAccount (origin : Origin Acc) (payer : Acc) (s : State Acc σ) :
    Fallible DispatchError (State Acc σ) := do
  Fallible.ofExcept DispatchError.ofOrigin (ensureRoot origin)
  pure (deposit { s with payerAccount := some payer } (.PayerUpdated payer))

/-- The body of the payout loop's `map`: `payout_stakers` for one validator, and the event of its
outcome. -/
def payoutValidator (payer validator : Acc) (era : EraIndex) (s : State Acc σ) : State Acc σ :=
  match env.payoutStakers payer validator era s.external with
  | .ok external => deposit { s with external := external } (.Payout validator)
  | .error err => deposit s (.PayoutError validator err)

/-- The payout loop, `filter(pending_rewards).take(max_payouts).map(..)` run lazily: while calls
remain, the next validator with rewards pending, in the state the calls before it left, is paid
out. Returns the state and the validators called, in order. -/
def payoutLoop (payer : Acc) (era : EraIndex) : ℕ → List Acc → State Acc σ → State Acc σ × List Acc
  | 0, _, s => (s, [])
  | _ + 1, [], s => (s, [])
  | k + 1, validator :: rest, s =>
    if env.pendingRewards s.external era validator then
      let next := payoutLoop payer era k rest (payoutValidator env payer validator era s)
      (next.1, validator :: next.2)
    else payoutLoop payer era (k + 1) rest s

/-- `on_initialize`. Every `total_weight.saturating_add(..)` is computed and dropped, so the
weight returned is the `Weight::zero()` the hook starts from. -/
def onInitialize (s : State Acc σ) : State Acc σ × Weight :=
  let totalWeight := Weight.zero
  let activeEra := s.nextPaidEra
  let currentEra := (env.activeEra s.external).getD 0
  let _ := totalWeight.saturatingAdd (env.dbWeight.reads 2)
  if activeEra ≥ currentEra then (s, totalWeight)
  else
    let s := deposit s (.Status currentEra activeEra)
    let maxPageSize := env.maxExposurePageSize
    let _ := totalWeight.saturatingAdd (env.dbWeight.reads 1)
    let singleCallWeight := env.payoutStakersAliveStaked maxPageSize
    let maxPayouts := env.maxPayoutsPerBlock.toNat
    let _ := totalWeight.saturatingAdd (env.dbWeight.reads 1)
    let rewardsForEra := env.erasRewardPoints s.external activeEra
    let _ := totalWeight.saturatingAdd (env.dbWeight.reads 1)
    let payer := s.payerAccount
    let _ := totalWeight.saturatingAdd (env.dbWeight.reads 1)
    match payer with
    | none => (deposit s (.SetupError noPayerSet), totalWeight)
    | some payer =>
      let paid := payoutLoop env payer activeEra maxPayouts rewardsForEra s
      let s := paid.1
      let rewardWeight :=
        (reduce Weight.saturatingAdd (paid.2.map fun _ => singleCallWeight)).getD Weight.zero
      -- no call was made: the era is paid
      let s := if rewardWeight = Weight.zero then
        { deposit s (.EraPaid activeEra) with nextPaidEra := activeEra + 1 } else s
      let _ := totalWeight.saturatingAdd rewardWeight
      (s, totalWeight)

/-- A block with no extrinsic: its `on_initialize`. -/
def Block (s s' : State Acc σ) : Prop := s' = (onInitialize env s).1

/-- The state after `n` blocks with no extrinsic. -/
def afterBlocks (s : State Acc σ) : ℕ → State Acc σ
  | 0 => s
  | n + 1 => (onInitialize env (afterBlocks s n)).1

end Rewards

end SxtNode
