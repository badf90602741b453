import ElectroLend.Pool.Changes
import ElectroLend.Pool.Traces

namespace ElectroLend

open Outcome LendingPool

/-- What was approved last, and what has been opened since. -/
structure Credit where
  approved : Nat
  opened : Nat

/-- The credit after an event: an approval replaces it, debt uses it, and the tokens of a new listing
start without any. -/
def Credit.after (asset : Address) (mode : InterestRateMode) (delegator delegatee : Address)
    (credit : Credit) : Event → Credit
  | .approved a m u c amount =>
    if a = asset ∧ m = mode ∧ u = delegator ∧ c = delegatee then ⟨amount, 0⟩ else credit
  | .opened a m user onBehalfOf amount =>
    if a = asset ∧ m = mode ∧ onBehalfOf = delegator ∧ user = delegatee then
      { credit with opened := credit.opened + amount }
    else credit
  | .listed a => if a = asset then ⟨0, 0⟩ else credit
  | .configured _ => credit

/-- The credit that a delegator has given a delegatee, after the events of a run. -/
def creditAfter (asset : Address) (mode : InterestRateMode) (delegator delegatee : Address)
    (events : List Event) : Credit :=
  events.foldl (Credit.after asset mode delegator delegatee) ⟨0, 0⟩

/-- `borrowAllowance` of the stable or the variable debt token of an asset. -/
def LendingPool.borrowAllowance (pool : LendingPool) (asset : Address) :
    InterestRateMode → Address → Address → Nat
  | .none => fun _ _ => 0
  | .stable => (pool.reserves asset).stableDebtToken.borrowAllowances
  | .variable => (pool.reserves asset).variableDebtToken.borrowAllowances

section Tokens

variable {allowances allowances' : Address → Address → Nat} {user v u c : Address} {amount : Nat}

/-- Debt opened for another account uses up its allowance, and no other. -/
theorem spendBorrowAllowance_eq_ok (hne : c ≠ u)
    (h : spendBorrowAllowance allowances user v amount = .ok allowances') :
    (v = u ∧ user = c → allowances' u c + amount = allowances u c) ∧
      (¬(v = u ∧ user = c) → allowances' u c = allowances u c) := by
  simp only [spendBorrowAllowance, decreaseBorrowAllowance, ite_eq_ok, bind_eq_ok,
    SafeMath.sub_eq_ok, pure_eq_ok, Except.ok.injEq] at h
  obtain ⟨_, _, ⟨hle, rfl⟩, rfl⟩ | ⟨hself, rfl⟩ := h
  · constructor
    · intro hpair
      obtain ⟨rfl, rfl⟩ := hpair
      rw [Function.update_self, Function.update_self]
      omega
    · intro hother
      by_cases hv : u = v
      · subst hv
        have hc : c ≠ user := fun he => hother ⟨rfl, he.symm⟩
        rw [Function.update_self, Function.update_of_ne hc]
      · rw [Function.update_of_ne hv]
  · refine ⟨?_, fun _ => rfl⟩
    intro hpair
    obtain ⟨rfl, rfl⟩ := hpair
    exact absurd hne hself

theorem approveDelegation_apply :
    approveDelegation allowances user v amount u c =
      if user = u ∧ v = c then amount else allowances u c := by
  unfold approveDelegation
  by_cases hu : u = user
  · subst hu
    rw [Function.update_self]
    by_cases hc : c = v
    · subst hc
      simp
    · rw [Function.update_of_ne hc, if_neg (fun h => hc h.2.symm)]
  · rw [Function.update_of_ne hu, if_neg (fun h => hu h.1.symm)]

theorem VariableDebtToken.mint_allowances {token token' : VariableDebtToken} {index : Nat}
    {first : Bool} (h : token.mint user v amount index = .ok (first, token')) :
    spendBorrowAllowance token.borrowAllowances user v amount = .ok token'.borrowAllowances := by
  simp only [VariableDebtToken.mint, bind_eq_ok, require_eq_ok, pure_eq_ok, Prod.mk.injEq] at h
  obtain ⟨_, hspend, _, _, _, _, _, _, _, rfl⟩ := h
  exact hspend

theorem VariableDebtToken.burn_allowances {token token' : VariableDebtToken} {index : Nat}
    (h : token.burn user amount index = .ok token') :
    token'.borrowAllowances = token.borrowAllowances := by
  simp only [VariableDebtToken.burn, bind_eq_ok, require_eq_ok, pure_eq_ok] at h
  obtain ⟨_, _, _, _, _, _, rfl⟩ := h
  rfl

theorem StableDebtToken.mint_allowances {token token' : StableDebtToken} {t rate : Nat}
    {first : Bool} (h : token.mint t user v amount rate = .ok (first, token')) :
    spendBorrowAllowance token.borrowAllowances user v amount = .ok token'.borrowAllowances := by
  simp only [StableDebtToken.mint, bind_eq_ok, require_eq_ok, pure_eq_ok, Prod.mk.injEq] at h
  obtain ⟨_, hspend, _, _, _, _, _, _, _, _, _, _, _, _, _, _, _, _, _, _, _, rfl⟩ := h
  exact hspend

theorem StableDebtToken.burn_allowances {token token' : StableDebtToken} {t : Nat}
    (h : token.burn t user amount = .ok token') :
    token'.borrowAllowances = token.borrowAllowances := by
  simp only [StableDebtToken.burn, bind_eq_ok, pure_eq_ok] at h
  obtain ⟨_, _, _, _, _, _, _, _, rfl⟩ := h
  rfl

end Tokens

variable {pool pool' : LendingPool} {t : Nat} {asset u c : Address} {mode : InterestRateMode}
  {events : List Event} {credit : Credit}

/-- The part of the approved credit that is not used is the allowance. -/
def LendingPool.Balanced (pool : LendingPool) (asset : Address) (mode : InterestRateMode)
    (delegator delegatee : Address) (credit : Credit) : Prop :=
  pool.borrowAllowance asset mode delegator delegatee + credit.opened = credit.approved

theorem Credit.after_openedBy {a : Address} {m : InterestRateMode} {user v : Address} {amount : Nat}
    (hne : c ≠ u) :
    (Event.openedBy a m user v amount).foldl (Credit.after asset mode u c) credit =
      if a = asset ∧ m = mode ∧ v = u ∧ user = c then
        { credit with opened := credit.opened + amount }
      else credit := by
  unfold Event.openedBy
  by_cases hself : user = v
  · subst hself
    rw [if_pos rfl, if_neg]
    · rfl
    · intro h
      obtain ⟨_, _, rfl, rfl⟩ := h
      exact hne rfl
  · rw [if_neg hself]
    rfl

theorem LendingPool.borrowAllowance_setReserve {a : Address} {r : Reserve}
    (hs : asset = a → mode = .stable → r.stableDebtToken.borrowAllowances =
      (pool.reserves a).stableDebtToken.borrowAllowances)
    (hv : asset = a → mode = .variable → r.variableDebtToken.borrowAllowances =
      (pool.reserves a).variableDebtToken.borrowAllowances) :
    (pool.setReserve a r).borrowAllowance asset mode = pool.borrowAllowance asset mode := by
  by_cases ha : asset = a
  · subst ha
    cases mode with
    | none => rfl
    | stable => simpa [borrowAllowance] using hs rfl rfl
    | «variable» => simpa [borrowAllowance] using hv rfl rfl
  · cases mode with
    | none => rfl
    | stable => simp [borrowAllowance, ha]
    | «variable» => simp [borrowAllowance, ha]

theorem LendingPool.Balanced.opened {a user v : Address} {m : InterestRateMode} {amount : Nat}
    (balanced : pool.Balanced asset mode u c credit) (hne : c ≠ u)
    (others : ¬(a = asset ∧ m = mode) →
      pool'.borrowAllowance asset mode = pool.borrowAllowance asset mode)
    (hspend : spendBorrowAllowance (pool.borrowAllowance a m) user v amount =
      .ok (pool'.borrowAllowance a m)) :
    pool'.Balanced asset mode u c
      ((Event.openedBy a m user v amount).foldl (Credit.after asset mode u c) credit) := by
  obtain ⟨used, unused⟩ := spendBorrowAllowance_eq_ok hne hspend
  rw [Credit.after_openedBy hne]
  unfold Balanced at balanced ⊢
  by_cases htoken : a = asset ∧ m = mode
  · obtain ⟨rfl, rfl⟩ := htoken
    by_cases hpair : v = u ∧ user = c
    · rw [if_pos ⟨rfl, rfl, hpair⟩]
      have left := used hpair
      dsimp only
      omega
    · rw [if_neg (fun h => hpair h.2.2), unused hpair]
      exact balanced
  · rw [if_neg (fun h => htoken ⟨h.1, h.2.1⟩), others htoken]
    exact balanced

theorem LendingPool.Balanced.approved {a user v : Address} {m : InterestRateMode} {amount : Nat}
    (balanced : pool.Balanced asset mode u c credit)
    (others : ¬(a = asset ∧ m = mode) →
      pool'.borrowAllowance asset mode = pool.borrowAllowance asset mode)
    (happrove : pool'.borrowAllowance a m =
      approveDelegation (pool.borrowAllowance a m) user v amount) :
    pool'.Balanced asset mode u c
      ([Event.approved a m user v amount].foldl (Credit.after asset mode u c) credit) := by
  show pool'.Balanced asset mode u c
    (if a = asset ∧ m = mode ∧ user = u ∧ v = c then ⟨amount, 0⟩ else credit)
  unfold Balanced at balanced ⊢
  by_cases htoken : a = asset ∧ m = mode
  · obtain ⟨rfl, rfl⟩ := htoken
    rw [happrove, approveDelegation_apply]
    by_cases hpair : user = u ∧ v = c
    · rw [if_pos hpair, if_pos ⟨rfl, rfl, hpair⟩]
      rfl
    · rw [if_neg hpair, if_neg (fun h => hpair h.2.2)]
      exact balanced
  · rw [if_neg (fun h => htoken ⟨h.1, h.2.1⟩), others htoken]
    exact balanced

/-- Every storage operation changes the allowance as its events change the credit. -/
theorem LendingPool.Write.balanced (h : Write t events pool pool') (hmode : mode ≠ .none)
    (hne : c ≠ u) (balanced : pool.Balanced asset mode u c credit) :
    pool'.Balanced asset mode u c (events.foldl (Credit.after asset mode u c) credit) := by
  have kept : ∀ {a : Address} {r : Reserve},
      r.stableDebtToken.borrowAllowances = (pool.reserves a).stableDebtToken.borrowAllowances →
      r.variableDebtToken.borrowAllowances =
        (pool.reserves a).variableDebtToken.borrowAllowances →
      (pool.setReserve a r).Balanced asset mode u c credit := by
    intro a r hs hv
    rw [Balanced, borrowAllowance_setReserve (fun _ _ => hs) (fun _ _ => hv)]
    exact balanced
  cases h with
  | updateState h =>
    obtain ⟨r, hr, rfl⟩ := updateState_eq_ok h
    obtain ⟨_, _, _, _, _, _, rfl, _⟩ := Reserve.updateState_eq_ok hr
    exact kept rfl rfl
  | updateInterestRates _ h =>
    obtain ⟨r, hr, rfl⟩ := updateInterestRates_eq_ok h
    obtain ⟨_, _, rfl⟩ := Reserve.updateInterestRates_eq_ok hr
    exact kept rfl rfl
  | cumulateToLiquidityIndex h =>
    obtain ⟨_, _, rfl⟩ := cumulateToLiquidityIndex_eq_ok h
    exact kept rfl rfl
  | setUsingAsCollateral _ h =>
    obtain ⟨_, _, rfl⟩ := setUsingAsCollateral_eq_ok h
    exact balanced
  | setBorrowing _ h =>
    obtain ⟨_, _, rfl⟩ := setBorrowing_eq_ok h
    exact balanced
  | setToken _ a token => exact balanced
  | setELToken _ => exact kept rfl rfl
  | @mintVariableDebt _ _ a user v amount _ _ h =>
    obtain ⟨token, hmint, rfl⟩ := mintVariableDebt_eq_ok h
    refine balanced.opened hne (fun hother => ?_) ?_
    · exact borrowAllowance_setReserve (fun _ _ => rfl)
        (fun ha hm => absurd ⟨ha.symm, hm.symm⟩ hother)
    · have spent := VariableDebtToken.mint_allowances hmint
      simpa [borrowAllowance] using spent
  | burnVariableDebt h =>
    obtain ⟨token, hburn, rfl⟩ := burnVariableDebt_eq_ok h
    exact kept rfl (VariableDebtToken.burn_allowances hburn)
  | @mintStableDebt _ _ a user v amount _ _ h =>
    obtain ⟨token, hmint, rfl⟩ := mintStableDebt_eq_ok h
    refine balanced.opened hne (fun hother => ?_) ?_
    · exact borrowAllowance_setReserve (fun ha hm => absurd ⟨ha.symm, hm.symm⟩ hother)
        (fun _ _ => rfl)
    · have spent := StableDebtToken.mint_allowances hmint
      simpa [borrowAllowance] using spent
  | burnStableDebt _ h =>
    obtain ⟨token, hburn, rfl⟩ := burnStableDebt_eq_ok h
    exact kept (StableDebtToken.burn_allowances hburn) rfl
  | approveStableDelegation _ msgSender a delegatee amount =>
    refine balanced.approved (fun hother => ?_) ?_
    · exact borrowAllowance_setReserve (fun ha hm => absurd ⟨ha.symm, hm.symm⟩ hother)
        (fun _ _ => rfl)
    · simp [borrowAllowance, LendingPool.approveStableDelegation]
  | approveVariableDelegation _ msgSender a delegatee amount =>
    refine balanced.approved (fun hother => ?_) ?_
    · exact borrowAllowance_setReserve (fun _ _ => rfl)
        (fun ha hm => absurd ⟨ha.symm, hm.symm⟩ hother)
    · simp [borrowAllowance, LendingPool.approveVariableDelegation]
  | @listReserve _ _ input h =>
    obtain ⟨_, id, configuration, hreserves⟩ := listReserve_reserves h
    show pool'.Balanced asset mode u c (if input.underlyingAsset = asset then ⟨0, 0⟩ else credit)
    unfold Balanced at balanced ⊢
    by_cases ha : input.underlyingAsset = asset
    · subst ha
      rw [if_pos rfl]
      cases mode with
      | none => exact absurd rfl hmode
      | stable => simp [borrowAllowance, hreserves, freshReserve, StableDebtToken.empty]
      | «variable» => simp [borrowAllowance, hreserves, freshReserve, VariableDebtToken.empty]
    · rw [if_neg ha]
      cases mode with
      | none => exact absurd rfl hmode
      | stable => simpa [borrowAllowance, hreserves, Ne.symm ha] using balanced
      | «variable» => simpa [borrowAllowance, hreserves, Ne.symm ha] using balanced
  | setConfiguration _ a configuration => exact kept rfl rfl
  | setReserveInterestRateStrategy _ a strategy => exact kept rfl rfl
  | setWorld _ paused priceOracle lendingRateOracle => exact balanced

theorem VisitedWith.balanced {rules : Rules} (h : VisitedWith rules t events pool)
    (hmode : mode ≠ .none) (hne : c ≠ u) :
    pool.Balanced asset mode u c (creditAfter asset mode u c events) := by
  refine h.follows (P := fun pool credit => pool.Balanced asset mode u c credit) ?_ ?_
  · intro this tokens priceOracle lendingRateOracle isContract
    cases mode with
    | none => exact absurd rfl hmode
    | stable => rfl
    | «variable» => rfl
  · intro t new pool pool' credit write balanced
    exact write.balanced hmode hne balanced

theorem LendingPool.borrow_within_allowance {amount interestRateMode : Nat}
    (hmode : InterestRateMode.fromNat interestRateMode = .ok mode) (hnone : mode ≠ .none)
    (hne : c ≠ u) (h : pool.borrow t c asset amount interestRateMode u = .ok pool') :
    amount ≤ pool.borrowAllowance asset mode u c := by
  have before : pool.Balanced asset mode u c ⟨pool.borrowAllowance asset mode u c, 0⟩ :=
    Nat.add_zero _
  have writes : Writes t (Event.openedBy asset mode c u amount) pool pool' := by
    have exec : (Call.borrow asset amount interestRateMode u).exec t c pool = .ok pool' := h
    have traced := Call.exec_writes exec
    rw [Call.events, hmode] at traced
    exact traced
  have after := writes.follows (P := fun pool credit => pool.Balanced asset mode u c credit)
    (fun _ _ _ _ _ write balanced => write.balanced hnone hne balanced) before
  rw [Credit.after_openedBy hne, if_pos ⟨rfl, rfl, rfl, rfl⟩] at after
  unfold Balanced at after
  dsimp only at after
  omega

/-- In every state of every run: the debt that `c` has opened for `u` since the last approval stays
within what was approved, the allowance is the rest, and a borrow beyond it reverts. -/
theorem delegation_capped {rules : Rules} (visited : VisitedWith rules t events pool)
    (hmode : mode ≠ .none) (hne : c ≠ u) :
    (creditAfter asset mode u c events).opened ≤ (creditAfter asset mode u c events).approved ∧
      pool.borrowAllowance asset mode u c =
        (creditAfter asset mode u c events).approved -
          (creditAfter asset mode u c events).opened ∧
      ∀ amount interestRateMode, InterestRateMode.fromNat interestRateMode = .ok mode →
        pool.borrowAllowance asset mode u c < amount →
        ∃ e, pool.borrow t c asset amount interestRateMode u = .error e := by
  have balanced : pool.borrowAllowance asset mode u c + (creditAfter asset mode u c events).opened =
      (creditAfter asset mode u c events).approved := visited.balanced hmode hne
  refine ⟨by omega, by omega, ?_⟩
  intro amount interestRateMode hfrom hlt
  cases hborrow : pool.borrow t c asset amount interestRateMode u with
  | error e => exact ⟨e, rfl⟩
  | ok pool' =>
    have within := borrow_within_allowance hfrom hmode hne hborrow
    omega

/-- Bob delegates 10 weth of variable credit to carol, who uses 4. -/
def delegatedCalls : List TimedCall :=
  Market.setup 1000 ++
    [(1, Market.alice, .deposit Market.weth (10 ^ 20) Market.alice),
      (2, Market.bob, .deposit Market.dai (10 ^ 20) Market.bob),
      (3, Market.bob, .approveVariableDelegation Market.weth Market.carol (10 ^ 19)),
      (4, Market.carol, .borrow Market.weth (4 * 10 ^ 18) 2 Market.bob)]

def delegatedMarket : LendingPool := Market.endState delegatedCalls

theorem delegatedMarket_history : History .any 5 (scriptEvents delegatedCalls) delegatedMarket :=
  Market.endState_history (by decide +kernel) (by decide +kernel)

theorem delegatedMarket_capped :
    delegatedMarket.borrowAllowance Market.weth .variable Market.bob Market.carol = 6 * 10 ^ 18 ∧
      ∃ e, delegatedMarket.borrow 5 Market.carol Market.weth (7 * 10 ^ 18) 2 Market.bob =
        .error e := by
  have visited := delegatedMarket_history.visitedWith (by decide)
  have capped : _ ∧ delegatedMarket.borrowAllowance Market.weth .variable Market.bob Market.carol =
      6 * 10 ^ 18 ∧ _ := delegation_capped visited (by decide) (by decide)
  obtain ⟨_, left, reverts⟩ := capped
  exact ⟨left, reverts (7 * 10 ^ 18) 2 rfl (by rw [left]; decide)⟩

end ElectroLend
