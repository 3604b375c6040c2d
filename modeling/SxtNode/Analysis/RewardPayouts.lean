import SxtNode.Model.Rewards
import SxtNode.Lib.Transition

/-!
# What `on_initialize` pays, and what it weighs

The payout loop calls `payout_stakers` on the era's pending validators, at most
`MaxPayoutsPerBlock` times, and leaves `NextPaidEra` alone (`payoutLoop_frame`). The weight the
hook returns is zero on every path, since each `saturating_add` is dropped: below the reads it
makes whenever a read weighs anything (`onInitialize_weight_below_reads`).

A validator whose payout keeps failing stays pending, so the loop calls it (or another validator)
in every block, the reward weight is never zero, and `NextPaidEra` never moves: one such
validator stalls its era for good. When instead every payout of the era succeeds and clears its
validator, each unpaid block leaves fewer validators pending, and the era is paid within one
block more than it had validators pending (`nextPaidEra_paid`).
-/

set_option autoImplicit false

namespace SxtNode

namespace Rewards

variable {Acc σ : Type} (env : RewardsEnv Acc σ)

/-! ## The payout loop -/

section Loop

variable (payer : Acc) (era : EraIndex)

@[simp]
theorem deposit_nextPaidEra (s : State Acc σ) (event : Event Acc) : (deposit s event).nextPaidEra = s.nextPaidEra :=
  rfl

@[simp]
theorem deposit_payerAccount (s : State Acc σ) (event : Event Acc) :
    (deposit s event).payerAccount = s.payerAccount :=
  rfl

@[simp]
theorem deposit_external (s : State Acc σ) (event : Event Acc) : (deposit s event).external = s.external :=
  rfl

@[simp]
theorem payoutValidator_nextPaidEra (validator : Acc) (s : State Acc σ) :
    (payoutValidator env payer validator era s).nextPaidEra = s.nextPaidEra := by
  unfold payoutValidator
  split <;> rfl

@[simp]
theorem payoutValidator_payerAccount (validator : Acc) (s : State Acc σ) :
    (payoutValidator env payer validator era s).payerAccount = s.payerAccount := by
  unfold payoutValidator
  split <;> rfl

/-- A call's outcome: the staking storage the call left, or as it was when the call failed. -/
theorem payoutValidator_external (validator : Acc) (s : State Acc σ) :
    (∃ x', env.payoutStakers payer validator era s.external = .ok x' ∧
      (payoutValidator env payer validator era s).external = x') ∨
    (payoutValidator env payer validator era s).external = s.external := by
  unfold payoutValidator
  split
  · next x' hok => exact .inl ⟨x', hok, rfl⟩
  · exact .inr rfl

/-- The loop leaves `NextPaidEra` and `PayerAccount` as they were. -/
theorem payoutLoop_frame (k : ℕ) (validators : List Acc) (s : State Acc σ) :
    (payoutLoop env payer era k validators s).1.nextPaidEra = s.nextPaidEra ∧
    (payoutLoop env payer era k validators s).1.payerAccount = s.payerAccount := by
  fun_induction payoutLoop env payer era k validators s with
  | case1 => exact ⟨rfl, rfl⟩
  | case2 => exact ⟨rfl, rfl⟩
  | case3 k validator rest s hpending next ih => simpa [next] using ih
  | case4 k validator rest s hpending ih => exact ih

/-- What every successful payout of the era keeps, the loop keeps. -/
theorem payoutLoop_preserves (P : σ → Prop)
    (hP : ∀ validator x x', env.payoutStakers payer validator era x = .ok x' → P x → P x')
    (k : ℕ) (validators : List Acc) (s : State Acc σ) (hs : P s.external) :
    P (payoutLoop env payer era k validators s).1.external := by
  fun_induction payoutLoop env payer era k validators s with
  | case1 => exact hs
  | case2 => exact hs
  | case3 k validator rest s hpending next ih =>
    apply ih
    rcases payoutValidator_external env payer era validator s with ⟨x', hok, hx'⟩ | hsame
    · exact hx' ▸ hP validator _ _ hok hs
    · exact hsame ▸ hs
  | case4 k validator rest s hpending ih => exact ih hs

/-- A loop allowed a call, over validators among which one stays pending whatever is paid, makes
a call: it reaches that validator or calls an earlier one. -/
theorem payoutLoop_called_ne_nil {v : Acc}
    (hpending : ∀ validator x x', env.payoutStakers payer validator era x = .ok x' →
      env.pendingRewards x era v = true → env.pendingRewards x' era v = true)
    (k : ℕ) (hk : 0 < k) (validators : List Acc) (hv : v ∈ validators) (s : State Acc σ)
    (hs : env.pendingRewards s.external era v = true) :
    (payoutLoop env payer era k validators s).2 ≠ [] := by
  fun_induction payoutLoop env payer era k validators s with
  | case1 => omega
  | case2 => simp at hv
  | case3 => simp
  | case4 k validator rest s hnot ih =>
    -- the validator passed over is not `v`, which is pending
    have hne : validator ≠ v := by
      rintro rfl
      exact hnot hs
    exact ih hk (List.mem_of_ne_of_mem hne.symm hv) hs

end Loop

/-! ## One block -/

/-- `on_initialize` on an era that is due, with a payer set: the `Status` event, the loop over
the era's validators, and the era recorded as paid when the reward weight is zero. -/
theorem onInitialize_paying {payer : Acc} {s : State Acc σ}
    (hdue : s.nextPaidEra < (env.activeEra s.external).getD 0) (hpayer : s.payerAccount = some payer) :
    (onInitialize env s).1 =
      let paid := payoutLoop env payer s.nextPaidEra env.maxPayoutsPerBlock.toNat
        (env.erasRewardPoints s.external s.nextPaidEra)
        (deposit s (.Status ((env.activeEra s.external).getD 0) s.nextPaidEra))
      if (reduce Weight.saturatingAdd (paid.2.map fun _ =>
          env.payoutStakersAliveStaked env.maxExposurePageSize)).getD Weight.zero = Weight.zero then
        { deposit paid.1 (.EraPaid s.nextPaidEra) with nextPaidEra := s.nextPaidEra + 1 }
      else paid.1 := by
  unfold onInitialize
  dsimp only
  rw [if_neg (UInt32.not_le.mpr hdue)]
  simp only [deposit_payerAccount, hpayer]
  rfl

/-- The reward weight of a block that made a call is not zero when a call weighs something. -/
theorem rewardWeight_ne_zero {w : Weight} (hw : w ≠ Weight.zero) {called : List Acc} (hcalled : called ≠ []) :
    (reduce Weight.saturatingAdd (called.map fun _ => w)).getD Weight.zero ≠ Weight.zero := by
  cases called with
  | nil => exact absurd rfl hcalled
  | cons validator rest => exact foldl_saturatingAdd_ne_zero hw _

/-! ## The weight returned -/

/-- `on_initialize` returns zero on every path. -/
theorem onInitialize_weight (s : State Acc σ) : (onInitialize env s).2 = Weight.zero := by
  unfold onInitialize
  dsimp only
  split
  · rfl
  · split <;> rfl

/-- Only the zero weight lies below the zero weight. -/
theorem zero_allGte_iff {w : Weight} : Weight.zero.allGte w = true ↔ w = Weight.zero := by
  simp [Weight.allGte, Weight.eq_zero_iff, UInt64.le_zero_iff]

/-- Reading weighs something when a read does. -/
theorem reads_ne_zero (db : RuntimeDbWeight) (hread : db.read ≠ 0) {r : UInt64} (hr : r ≠ 0) :
    db.reads r ≠ Weight.zero := by
  intro hzero
  have hmul : db.read.saturatingMul r = 0 := (Weight.eq_zero_iff.mp hzero).1
  rcases UInt64.saturatingMul_eq_zero_iff.mp hmul with h | h
  · exact hread h
  · exact hr h

/-- Whenever a read weighs something, the weight `on_initialize` returns is below the two reads
every path makes, and below six reads and any number of payouts. -/
theorem onInitialize_weight_below_reads (hread : env.dbWeight.read ≠ 0) (s : State Acc σ) (n : UInt64) :
    (onInitialize env s).2.allGte (env.dbWeight.reads 2) = false ∧
    (onInitialize env s).2.allGte ((env.dbWeight.reads 6).saturatingAdd
      ((env.payoutStakersAliveStaked env.maxExposurePageSize).saturatingMul n)) = false := by
  have htwo : env.dbWeight.reads 2 ≠ Weight.zero := reads_ne_zero env.dbWeight hread (by decide)
  have hsix : env.dbWeight.reads 6 ≠ Weight.zero := reads_ne_zero env.dbWeight hread (by decide)
  rw [onInitialize_weight]
  constructor
  · exact Bool.eq_false_iff.mpr (fun h => htwo (zero_allGte_iff.mp h))
  · exact Bool.eq_false_iff.mpr (fun h => hsix (Weight.saturatingAdd_eq_zero_iff.mp (zero_allGte_iff.mp h)).1)

/-! ## A validator whose stash was reaped -/

/-- A staking pallet in which the validators `7` and `8` earned points and the stash of `7` was
reaped, so that its payouts fail with `NotStash`. Each validator has one page to pay; the storage
is the list of validators whose page is unpaid. The active era is `1`, and the runtime's
constants are those of `sxt-node`'s runtime, with a read weighing as `RocksDbWeight`'s. -/
def reapedStaking : RewardsEnv ℕ (List ℕ) where
  activeEra _ := some 1
  erasRewardPoints _ _ := [7, 8]
  pendingRewards unpaid _ validator := decide (validator ∈ unpaid)
  payoutStakers _ validator _ unpaid :=
    if validator = 7 then .error (.Module "Staking" "NotStash") else .ok (unpaid.erase validator)
  payoutStakersAliveStaked pageSize := ⟨pageSize.toUInt64, 0⟩
  maxExposurePageSize := 512
  dbWeight := ⟨25000000⟩
  maxPayoutsPerBlock := 3

/-- Era `0` is due, the payer `1` is set, and both pages are unpaid. -/
def reapedStart : State ℕ (List ℕ) := ⟨[7, 8], 0, some 1, []⟩

theorem reapedStart_weight_below_reads :
    reapedStaking.dbWeight.read ≠ 0 ∧
    (onInitialize reapedStaking reapedStart).2.allGte (reapedStaking.dbWeight.reads 2) = false ∧
    (onInitialize reapedStaking reapedStart).2.allGte ((reapedStaking.dbWeight.reads 6).saturatingAdd
      ((reapedStaking.payoutStakersAliveStaked reapedStaking.maxExposurePageSize).saturatingMul 1)) = false :=
  ⟨by decide, onInitialize_weight_below_reads reapedStaking (by decide) reapedStart 1⟩

/-! ## An era that is never paid -/

section Stall

/-- Payouts keep the active era and the reward points of every era. -/
def RewardsEnv.PayoutKeepsEras : Prop :=
  ∀ payer validator era x x', env.payoutStakers payer validator era x = .ok x' →
    env.activeEra x' = env.activeEra x ∧ env.erasRewardPoints x' = env.erasRewardPoints x

/-- `pending_rewards(era, v)` stays true through the payouts of other validators. -/
def RewardsEnv.PendingUntilPaid (v : Acc) (era : EraIndex) : Prop :=
  ∀ payer validator x x', env.payoutStakers payer validator era x = .ok x' → validator ≠ v →
    env.pendingRewards x era v = true → env.pendingRewards x' era v = true

variable (payer v : Acc) (e c : EraIndex)

/-- The era `e` is due (the active era is `c`) and not paid, a payer is set, and `v` earned
points in `e` and has rewards pending in it. -/
structure Stalled (s : State Acc σ) : Prop where
  nextPaidEra : s.nextPaidEra = e
  payerAccount : s.payerAccount = some payer
  activeEra : env.activeEra s.external = some c
  listed : v ∈ env.erasRewardPoints s.external e
  pending : env.pendingRewards s.external e v = true

variable {env payer v e c}

/-- When `v`'s payouts fail, every payout of the era that succeeds is another validator's, and
keeps `v` pending. -/
theorem pending_of_payoutStakers_ok (hpending : env.PendingUntilPaid v e)
    (hfails : ∀ x, ∃ err, env.payoutStakers payer v e x = .error err) {validator : Acc} {x x' : σ}
    (hok : env.payoutStakers payer validator e x = .ok x') (hx : env.pendingRewards x e v = true) :
    env.pendingRewards x' e v = true := by
  have hne : validator ≠ v := by
    rintro rfl
    obtain ⟨err, herr⟩ := hfails x
    rw [herr] at hok
    cases hok
  exact hpending payer validator x x' hok hne hx

/-- Over payouts that keep the eras, the loop leaves `NextPaidEra`, the payer, the active era and
the reward points as they were. -/
theorem payoutLoop_keeps (hkeeps : env.PayoutKeepsEras) (era : EraIndex) (k : ℕ) (validators : List Acc)
    {s : State Acc σ} (hactive : env.activeEra s.external = some c) :
    (payoutLoop env payer era k validators s).1.nextPaidEra = s.nextPaidEra ∧
      (payoutLoop env payer era k validators s).1.payerAccount = s.payerAccount ∧
      env.activeEra (payoutLoop env payer era k validators s).1.external = some c ∧
      env.erasRewardPoints (payoutLoop env payer era k validators s).1.external = env.erasRewardPoints s.external := by
  obtain ⟨hera, hpayer⟩ := payoutLoop_frame env payer era k validators s
  obtain ⟨hactive', hpoints⟩ := payoutLoop_preserves env payer era
    (fun x => env.activeEra x = some c ∧ env.erasRewardPoints x = env.erasRewardPoints s.external)
    (fun _ x x' hok hx => ⟨(hkeeps _ _ _ _ _ hok).1.trans hx.1, (hkeeps _ _ _ _ _ hok).2.trans hx.2⟩)
    k validators s ⟨hactive, rfl⟩
  exact ⟨hera, hpayer, hactive', hpoints⟩

/-- A block keeps an era stalled on a validator whose payouts fail: the loop calls some
validator, so the reward weight is not zero and the era is not recorded as paid. -/
theorem stalled_onInitialize (hdue : e < c) (hmax : 0 < env.maxPayoutsPerBlock.toNat)
    (hweight : env.payoutStakersAliveStaked env.maxExposurePageSize ≠ Weight.zero)
    (hkeeps : env.PayoutKeepsEras) (hpending : env.PendingUntilPaid v e)
    (hfails : ∀ x, ∃ err, env.payoutStakers payer v e x = .error err)
    {s : State Acc σ} (hs : Stalled env payer v e c s) : Stalled env payer v e c (onInitialize env s).1 := by
  obtain ⟨rfl, hpayer, hactive, hlisted, hpend⟩ := hs
  have hkeepPending : ∀ validator x x', env.payoutStakers payer validator s.nextPaidEra x = .ok x' →
      env.pendingRewards x s.nextPaidEra v = true → env.pendingRewards x' s.nextPaidEra v = true :=
    fun _ _ _ hok hx => pending_of_payoutStakers_ok hpending hfails hok hx
  have hdue' : s.nextPaidEra < (env.activeEra s.external).getD 0 := by
    rw [hactive]
    exact hdue
  rw [onInitialize_paying env hdue' hpayer]
  set s₁ := deposit s (.Status ((env.activeEra s.external).getD 0) s.nextPaidEra)
  have hcalled := payoutLoop_called_ne_nil env payer s.nextPaidEra hkeepPending env.maxPayoutsPerBlock.toNat hmax
    (env.erasRewardPoints s.external s.nextPaidEra) hlisted s₁ hpend
  dsimp only
  rw [if_neg (rewardWeight_ne_zero hweight hcalled)]
  -- the staking storage the loop leaves: the same era, the same points, `v` still pending
  obtain ⟨hera, hpayer', hactive', hpoints⟩ := payoutLoop_keeps hkeeps s.nextPaidEra env.maxPayoutsPerBlock.toNat
    (env.erasRewardPoints s.external s.nextPaidEra) (s := s₁) hactive
  have hpend' := payoutLoop_preserves env payer s.nextPaidEra (fun x => env.pendingRewards x s.nextPaidEra v = true)
    hkeepPending env.maxPayoutsPerBlock.toNat (env.erasRewardPoints s.external s.nextPaidEra) s₁ hpend
  have hlisted' : v ∈ env.erasRewardPoints (payoutLoop env payer s.nextPaidEra env.maxPayoutsPerBlock.toNat
      (env.erasRewardPoints s.external s.nextPaidEra) s₁).1.external s.nextPaidEra := by
    rw [hpoints]
    exact hlisted
  exact ⟨hera, hpayer'.trans hpayer, hactive', hlisted', hpend'⟩

/-- Blocks with no extrinsic keep such an era stalled. -/
theorem stalled_stable (hdue : e < c) (hmax : 0 < env.maxPayoutsPerBlock.toNat)
    (hweight : env.payoutStakersAliveStaked env.maxExposurePageSize ≠ Weight.zero)
    (hkeeps : env.PayoutKeepsEras) (hpending : env.PendingUntilPaid v e)
    (hfails : ∀ x, ∃ err, env.payoutStakers payer v e x = .error err) :
    Stable (Block env) (Stalled env payer v e c) := by
  intro s s' hs hblock
  rw [hblock]
  exact stalled_onInitialize hdue hmax hweight hkeeps hpending hfails hs

/-- A validator whose payouts of a due era always fail, and whose rewards stay pending through
the others' payouts, keeps `NextPaidEra` at that era in every later block. -/
theorem nextPaidEra_stalled (hdue : e < c) (hmax : 0 < env.maxPayoutsPerBlock.toNat)
    (hweight : env.payoutStakersAliveStaked env.maxExposurePageSize ≠ Weight.zero)
    (hkeeps : env.PayoutKeepsEras) (hpending : env.PendingUntilPaid v e)
    (hfails : ∀ x, ∃ err, env.payoutStakers payer v e x = .error err)
    {s s' : State Acc σ} (hs : Stalled env payer v e c s) (hrun : Relation.ReflTransGen (Block env) s s') :
    s'.nextPaidEra = e :=
  ((stalled_stable hdue hmax hweight hkeeps hpending hfails).reflTransGen hrun hs).nextPaidEra

end Stall

/-- Each state after blocks with no extrinsic is reached by them. -/
theorem reflTransGen_afterBlocks (s : State Acc σ) (n : ℕ) :
    Relation.ReflTransGen (Block env) s (afterBlocks env s n) := by
  induction n with
  | zero => exact .refl
  | succ n ih => exact ih.tail rfl

theorem reapedStaking_payoutKeepsEras : reapedStaking.PayoutKeepsEras :=
  fun _ _ _ _ _ _ => ⟨rfl, rfl⟩

theorem reapedStaking_pendingUntilPaid : reapedStaking.PendingUntilPaid 7 0 := by
  intro payer validator unpaid unpaid' hok hne hpending
  simp only [reapedStaking, if_neg hne, Except.ok.injEq] at hok
  subst hok
  simpa [reapedStaking, List.mem_erase_of_ne (Ne.symm hne)] using hpending

/-- Era `0` has two pages to pay and the runtime pays three per block, yet two blocks later (and
at every later block) it is still the era to pay. -/
theorem reapedStart_era_stalled :
    reapedStart.external.length = 2 ∧ reapedStaking.maxPayoutsPerBlock = 3 ∧
    (afterBlocks reapedStaking reapedStart 2).nextPaidEra = 0 :=
  ⟨rfl, rfl, @nextPaidEra_stalled ℕ (List ℕ) reapedStaking 1 7 0 1 (by decide) (by decide) (by decide)
    reapedStaking_payoutKeepsEras reapedStaking_pendingUntilPaid (fun _ => ⟨_, rfl⟩) _ _
    ⟨rfl, rfl, rfl, by decide, by decide⟩ (reflTransGen_afterBlocks reapedStaking reapedStart 2)⟩

/-! ## An era whose payouts succeed is paid

The stall above comes from a payout that keeps failing. When every payout of the due era
succeeds and clears its validator, each block that pays someone leaves fewer validators of the
era pending, and the first block that finds none records the era as paid. -/

section Progress

/-- A successful payout of an era clears its validator's rewards there and leaves no other
validator pending that was not. -/
def RewardsEnv.PayoutClears (era : EraIndex) : Prop :=
  ∀ payer validator x x', env.payoutStakers payer validator era x = .ok x' →
    env.pendingRewards x' era validator = false ∧
      ∀ w, env.pendingRewards x' era w = true → env.pendingRewards x era w = true

/-- The payer's payouts of an era succeed for every validator with rewards pending there. -/
def RewardsEnv.PayoutSucceeds (payer : Acc) (era : EraIndex) : Prop :=
  ∀ validator x, env.pendingRewards x era validator = true → ∃ x', env.payoutStakers payer validator era x = .ok x'

/-- How many validators of a list have rewards pending in an era. -/
def RewardsEnv.pendingIn (era : EraIndex) (validators : List Acc) (x : σ) : ℕ :=
  validators.countP (env.pendingRewards x era)

variable (payer : Acc) (e c : EraIndex)

/-- The era `e` is due (the active era is `c`), and a payer is set. -/
structure Due (s : State Acc σ) : Prop where
  nextPaidEra : s.nextPaidEra = e
  payerAccount : s.payerAccount = some payer
  activeEra : env.activeEra s.external = some c

variable {env payer e c}

/-- Over payouts that succeed and clear, the loop leaves no more validators of a list pending, and
fewer once it made a call, when the list holds every validator the loop scans. -/
theorem pendingIn_payoutLoop (hclears : env.PayoutClears e) (hsucc : env.PayoutSucceeds payer e) (L : List Acc)
    (k : ℕ) (validators : List Acc) (s : State Acc σ) :
    (∀ w ∈ validators, w ∈ L) →
      env.pendingIn e L (payoutLoop env payer e k validators s).1.external ≤ env.pendingIn e L s.external ∧
      ((payoutLoop env payer e k validators s).2 ≠ [] →
        env.pendingIn e L (payoutLoop env payer e k validators s).1.external < env.pendingIn e L s.external) := by
  fun_induction payoutLoop env payer e k validators s with
  | case1 => exact fun _ => ⟨Nat.le_refl _, fun h => absurd rfl h⟩
  | case2 => exact fun _ => ⟨Nat.le_refl _, fun h => absurd rfl h⟩
  | case3 k validator rest s hpending next ih =>
    intro hsub
    -- the call succeeds and clears `validator`, which the list holds
    obtain ⟨x', hok⟩ := hsucc validator s.external hpending
    have hx' : (payoutValidator env payer validator e s).external = x' := by
      simp only [payoutValidator, hok, deposit_external]
    have hdrop : env.pendingIn e L x' < env.pendingIn e L s.external :=
      List.countP_lt_countP (fun w _ hw => (hclears payer validator _ _ hok).2 w hw) (hsub validator List.mem_cons_self)
        hpending (hclears payer validator _ _ hok).1
    obtain ⟨hle, -⟩ := ih fun w hw => hsub w (List.mem_cons_of_mem validator hw)
    rw [hx'] at hle
    exact ⟨Nat.le_of_lt (Nat.lt_of_le_of_lt hle hdrop), fun _ => Nat.lt_of_le_of_lt hle hdrop⟩
  | case4 k validator rest s hnot ih =>
    exact fun hsub => ih fun w hw => hsub w (List.mem_cons_of_mem validator hw)

/-- A block on a due era either pays it, or makes a call and leaves it due, with the era's
validators listed as before and fewer of them pending. -/
theorem due_onInitialize (hdue : e < c) (hkeeps : env.PayoutKeepsEras) (hclears : env.PayoutClears e)
    (hsucc : env.PayoutSucceeds payer e) {s : State Acc σ} (hs : Due env payer e c s) :
    (onInitialize env s).1.nextPaidEra = e + 1 ∨
      (Due env payer e c (onInitialize env s).1 ∧
        env.erasRewardPoints (onInitialize env s).1.external = env.erasRewardPoints s.external ∧
        env.pendingIn e (env.erasRewardPoints s.external e) (onInitialize env s).1.external <
          env.pendingIn e (env.erasRewardPoints s.external e) s.external) := by
  obtain ⟨rfl, hpayer, hactive⟩ := hs
  have hdue' : s.nextPaidEra < (env.activeEra s.external).getD 0 := by
    rw [hactive]
    exact hdue
  rw [onInitialize_paying env hdue' hpayer]
  set s₁ := deposit s (.Status ((env.activeEra s.external).getD 0) s.nextPaidEra)
  set L := env.erasRewardPoints s.external s.nextPaidEra
  dsimp only
  split
  · exact .inl rfl
  · next hweight =>
    -- a block that called no one has a zero reward weight, so this one made a call
    have hcalled : (payoutLoop env payer s.nextPaidEra env.maxPayoutsPerBlock.toNat L s₁).2 ≠ [] := by
      intro hnone
      rw [hnone] at hweight
      exact hweight rfl
    obtain ⟨hera, hpayer', hactive', hpoints⟩ :=
      payoutLoop_keeps hkeeps s.nextPaidEra env.maxPayoutsPerBlock.toNat L (s := s₁) hactive
    obtain ⟨-, hdrop⟩ := pendingIn_payoutLoop hclears hsucc L env.maxPayoutsPerBlock.toNat L s₁ fun _ hw => hw
    exact .inr ⟨⟨hera, hpayer'.trans hpayer, hactive'⟩, hpoints, hdrop hcalled⟩

/-- The state after `n + 1` blocks is the state `n` blocks after the first. -/
theorem afterBlocks_succ (s : State Acc σ) (n : ℕ) :
    afterBlocks env s (n + 1) = afterBlocks env (onInitialize env s).1 n := by
  induction n with
  | zero => rfl
  | succ n ih => rw [afterBlocks, ih, afterBlocks]

/-- When every payout of a due era succeeds and clears its validator, blocks with no extrinsic pay
the era within one block more than it has validators with rewards pending. -/
theorem nextPaidEra_paid (hdue : e < c) (hkeeps : env.PayoutKeepsEras) (hclears : env.PayoutClears e)
    (hsucc : env.PayoutSucceeds payer e) {s : State Acc σ} (hs : Due env payer e c s) :
    ∃ n ≤ env.pendingIn e (env.erasRewardPoints s.external e) s.external + 1,
      (afterBlocks env s n).nextPaidEra = e + 1 := by
  -- induction on a bound of the validators still pending, which each unpaid block lowers
  suffices h : ∀ m (s : State Acc σ), Due env payer e c s →
      env.pendingIn e (env.erasRewardPoints s.external e) s.external ≤ m →
      ∃ n ≤ m + 1, (afterBlocks env s n).nextPaidEra = e + 1 from h _ s hs (Nat.le_refl _)
  intro m
  induction m with
  | zero =>
    intro s hs hm
    rcases due_onInitialize hdue hkeeps hclears hsucc hs with hpaid | ⟨-, -, hlt⟩
    · exact ⟨1, Nat.le_refl _, hpaid⟩
    · omega
  | succ m ih =>
    intro s hs hm
    rcases due_onInitialize hdue hkeeps hclears hsucc hs with hpaid | ⟨hs', hpoints, hlt⟩
    · exact ⟨1, by omega, hpaid⟩
    · obtain ⟨n, hn, hpaid⟩ := ih _ hs' (by rw [hpoints]; omega)
      exact ⟨n + 1, by omega, by rw [afterBlocks_succ]; exact hpaid⟩

end Progress

/-- The same staking pallet with no stash reaped: a payout pays every page of its validator. -/
def healthyStaking : RewardsEnv ℕ (List ℕ) :=
  { reapedStaking with payoutStakers := fun _ validator _ unpaid => .ok (unpaid.filter (· ≠ validator)) }

theorem healthyStaking_payoutClears : healthyStaking.PayoutClears 0 := by
  intro payer validator unpaid unpaid' hok
  simp only [healthyStaking, Except.ok.injEq] at hok
  subst hok
  refine ⟨by simp [healthyStaking, reapedStaking], fun w hw => ?_⟩
  simp only [healthyStaking, reapedStaking, decide_eq_true_eq, List.mem_filter] at hw ⊢
  exact hw.1

/-- With every payout succeeding, era `0` of the same start is paid within three blocks. -/
theorem healthyStart_paid : ∃ n ≤ 3, (afterBlocks healthyStaking reapedStart n).nextPaidEra = 1 :=
  @nextPaidEra_paid ℕ (List ℕ) healthyStaking 1 0 1 (by decide) (fun _ _ _ _ _ _ => ⟨rfl, rfl⟩)
    healthyStaking_payoutClears (fun _ _ _ => ⟨_, rfl⟩) reapedStart ⟨rfl, rfl, rfl⟩

end Rewards

end SxtNode
