import ElectroLend.Pool.AccountFrame
import ElectroLend.Pool.Configurator
import ElectroLend.Pool.HealthFactor
import ElectroLend.Properties.AccountDebt
import ElectroLend.Properties.Withdrawal
import Mathlib.Algebra.Order.Field.Rat

namespace ElectroLend

open Outcome

namespace LendingPool

variable {pool pool' : LendingPool} {t amount : Nat} {asset u : Address}
  {config : UserConfigurationMap} {account account' : UserAccountData}

theorem healthFactorAfterDecrease_eq_ok {price decimals threshold : Nat}
    (h : healthFactorAfterDecrease account price amount decimals threshold = .ok true) :
    ∃ decrease health, price * amount / tokenUnit decimals = decrease ∧
      decrease * threshold ≤ account.totalCollateralInETH * account.avgLiquidationThreshold ∧
      calculateHealthFactorFromBalances (account.totalCollateralInETH - decrease)
        account.totalDebtInETH ((account.totalCollateralInETH * account.avgLiquidationThreshold -
          decrease * threshold) / (account.totalCollateralInETH - decrease)) = .ok health ∧
      HEALTH_FACTOR_LIQUIDATION_THRESHOLD ≤ health := by
  simp only [healthFactorAfterDecrease, bind_eq_ok, ite_eq_ok, SafeMath.mul_eq_ok,
    SafeMath.div_eq_ok, SafeMath.sub_eq_ok, pure_eq_ok, decide_eq_true_eq, Except.ok.injEq] at h
  obtain ⟨_, ⟨_, rfl⟩, _, ⟨_, rfl⟩, _, ⟨_, rfl⟩, ⟨_, hno⟩ | ⟨_, _, ⟨_, rfl⟩, _, ⟨_, rfl⟩, _,
    ⟨hle, rfl⟩, _, ⟨_, rfl⟩, health, hhealth, hge⟩⟩ := h
  · cases hno
  · exact ⟨_, health, rfl, hle, hhealth, hge⟩

theorem balanceDecreaseAllowed_eq_ok
    (hset : config.collateralBit (pool.reserves asset).id = true)
    (hlt : (pool.reserves asset).configuration.getParams.liquidationThreshold ≠ 0)
    (h : pool.balanceDecreaseAllowed t asset u amount config = .ok true) :
    config.isBorrowingAny = false ∨
      ∃ account, pool.calculateUserAccountData t u config = .ok account ∧
        (account.totalDebtInETH = 0 ∨ healthFactorAfterDecrease account (pool.priceOracle asset)
          amount (pool.reserves asset).configuration.getParams.decimals
          (pool.reserves asset).configuration.getParams.liquidationThreshold = .ok true) := by
  obtain ⟨hnone, _⟩ | ⟨_, h⟩ := ite_eq_ok.mp h
  · exact .inl (by simpa using hnone)
  · simp only [bind_eq_ok, UserConfigurationMap.isUsingAsCollateral_eq_ok, ite_eq_ok,
      collateralDecreaseAllowed] at h
    obtain ⟨used, ⟨_, hused⟩, ⟨hunused, _⟩ | ⟨_, ⟨hz, _⟩ | ⟨_, account, hdata, hcheck⟩⟩⟩ := h
    · rw [← hused, hset] at hunused
      cases hunused
    · exact absurd hz hlt
    · refine .inr ⟨account, hdata, ?_⟩
      obtain ⟨hz, _⟩ | ⟨_, hhealth⟩ := hcheck
      · exact .inl hz
      · exact .inr hhealth

theorem totalDebt_of_not_borrowing (hnone : ∀ i, config.borrowingBit i = false)
    (hdata : pool.calculateUserAccountData t u config = .ok account) :
    account.totalDebtInETH = 0 := by
  obtain ⟨debts, hdebts, _, hsum, _⟩ := calculateUserAccountData_eq_ok hdata
  rw [hsum]
  refine Finset.sum_eq_zero fun i hi => ?_
  have hdebt := hdebts i (Finset.mem_range.mp hi)
  rw [debtAt, hnone] at hdebt
  exact (Except.ok.inj hdebt).symm

theorem withdraw_allowed {paid : Nat} {recipient : Address}
    (h : pool.withdraw t u asset amount recipient = .ok (paid, pool')) :
    (pool.reserves asset).variableDebtTokenAddress ≠ 0 ∧
      pool.balanceDecreaseAllowed t asset u paid (pool.usersConfig u) = .ok true := by
  obtain ⟨balance, p₁, _, _, _, hvalid, h₁, _, _, _, rfl⟩ := withdraw_eq_ok h
  simp only [validateWithdraw, bind_eq_ok, require_eq_ok] at hvalid
  obtain ⟨_, _, _, _, _, _, allowed, hallowed, htrue⟩ := hvalid
  have listed := updateState_listed h₁
  obtain ⟨r, hr, rfl⟩ := updateState_eq_ok h₁
  obtain ⟨li, vi, minted, hlisted, _⟩ := Reserve.updateState_eq_ok hr
  rw [htrue] at hallowed
  exact ⟨hlisted, hallowed⟩

theorem withdraw_weightedThreshold {paid threshold : Nat} {recipient : Address}
    (ht : IsBlockTimestamp t) (listing : pool.WellListed)
    (hindex : RAY ≤ (pool.reserves asset).liquidityIndex)
    (hset : (pool.usersConfig u).collateralBit (pool.reserves asset).id = true)
    (hthreshold : (pool.reserves asset).configuration.getParams.liquidationThreshold = threshold)
    (hlt : threshold ≠ 0)
    (h : pool.withdraw t u asset amount recipient = .ok (paid, pool')) :
    pool.weightedThreshold u (pool.usersConfig u) ≤
      pool'.weightedThreshold u (pool'.usersConfig u) +
        pool.priceOracle asset * paid /
          tokenUnit (pool.reserves asset).configuration.getParams.decimals * threshold +
        threshold := by
  have frame := withdraw_accountFrame ht h
  have others := withdraw_touches h
  obtain ⟨_, _, hpaid, index, minted, scaled, hnext, hd, _, _, hscaled, hbal, _, hbits, _⟩ :=
    withdraw_effect h
  have hdown := rayDiv_le (hindex.trans (Reserve.le_nextLiquidityIndex hnext)) hd
  obtain hblank | ⟨_, hid, hlist⟩ := listing.known asset
  · exact absurd hblank.variableDebtToken (withdraw_allowed h).1
  generalize hk : (pool.reserves asset).id = k at hid hlist hset hbits
  have same : ∀ i, i < pool.reservesCount → i ≠ k →
      pool'.collateralAt u (pool'.usersConfig u) i * (pool.paramsAt i).liquidationThreshold =
        pool.collateralAt u (pool.usersConfig u) i * (pool.paramsAt i).liquidationThreshold := by
    intro i hi hne
    have hasset : pool.reservesList i ≠ asset := by
      intro heq
      have hi := (listing.listed i hi).2
      rw [heq, hk] at hi
      exact hne hi.symm
    rw [frame.value.collateralAt]
    · rw [hbits, if_neg fun hand => hne hand.2]
    · rw [others.reserves _ hasset]
  have change := sum_range_change hid same
  have at_k : (pool.paramsAt k).liquidationThreshold = threshold := by
    rw [paramsAt, hlist]
    exact hthreshold
  rw [at_k] at change
  have value : pool.collateralAt u (pool.usersConfig u) k = _ :=
    collateralAt_set hlist (by rwa [hthreshold]) hset
  have loss : pool.collateralAt u (pool.usersConfig u) k ≤
      pool'.collateralAt u (pool'.usersConfig u) k + pool.priceOracle asset * paid /
        tokenUnit (pool.reserves asset).configuration.getParams.decimals + 1 := by
    rw [value]
    by_cases hall : paid = (pool.reserves asset).elToken.balances u
    · rw [← hall]
      omega
    · have hset' : (pool'.usersConfig u).collateralBit k = true := by
        rw [hbits, if_neg fun hand => hall hand.1]
        exact hset
      have hconfig := (frame.reserve asset).configuration
      rw [collateralAt_set (by rw [frame.list, hlist]) (by rwa [hconfig, hthreshold]) hset',
        frame.price, hconfig]
      refine HalfUp.div_le_add_div ?_
      rw [← Nat.mul_add]
      exact Nat.mul_le_mul_left _ (by omega)
  have weighted := Nat.mul_le_mul_right threshold loss
  rw [Nat.add_mul, Nat.add_mul, Nat.one_mul] at weighted
  have sums : pool'.weightedThreshold u (pool'.usersConfig u) =
      ∑ i ∈ Finset.range pool.reservesCount,
        pool'.collateralAt u (pool'.usersConfig u) i * (pool.paramsAt i).liquidationThreshold := by
    simp only [weightedThreshold, frame.count, frame.value.paramsAt]
  rw [sums]
  unfold weightedThreshold
  omega

/-- What an allowed decrease leaves of the weighted collateral covers the debt, rounding aside. -/
theorem decrease_covers {price decimals threshold : Nat}
    (h : healthFactorAfterDecrease account price amount decimals threshold = .ok true) :
    2 * (10 ^ 4 * WAD * account.totalDebtInETH) + 2 * WAD *
        (price * amount / tokenUnit decimals * threshold) ≤
      2 * WAD * (account.totalCollateralInETH * account.avgLiquidationThreshold) + 10 ^ 4 * WAD +
        10 ^ 4 * account.totalDebtInETH := by
  obtain ⟨decrease, health, hdecrease, hle, hhealth, hge⟩ := healthFactorAfterDecrease_eq_ok h
  have covers := health_covers hhealth hge
  have left := Nat.mul_div_le (account.totalCollateralInETH * account.avgLiquidationThreshold -
    decrease * threshold) (account.totalCollateralInETH - decrease)
  rw [hdecrease]
  unfold WAD at covers ⊢
  omega

end LendingPool

open LendingPool

/-- A withdrawal never strips the collateral of a debt: afterwards the weighted collateral still
covers the debt but for two units and a rounded share of the debt. -/
theorem withdraw_leaves_collateral {pool pool' : LendingPool} {t t₀ amount paid : Nat}
    {asset u recipient : Address} {account' : UserAccountData}
    (reach : Reachable .any t₀ pool) (ht : IsBlockTimestamp t)
    (hindex : RAY ≤ (pool.reserves asset).liquidityIndex)
    (accepted : (pool.reserves asset).configuration.Accepted)
    (hset : (pool.usersConfig u).collateralBit (pool.reserves asset).id = true)
    (hlt : (pool.reserves asset).configuration.getParams.liquidationThreshold ≠ 0)
    (h : pool.withdraw t u asset amount recipient = .ok (paid, pool'))
    (hdata : pool'.calculateUserAccountData t u (pool'.usersConfig u) = .ok account') :
    (10 ^ 4 * account'.totalDebtInETH : ℚ) ≤
      pool'.weightedThreshold u (pool'.usersConfig u) + 2 * 10 ^ 4 +
        10 ^ 4 * account'.totalDebtInETH / 10 ^ 18 := by
  have kept := withdraw_weightedThreshold ht reach.marked.listing hindex hset rfl hlt h
  have frame := withdraw_accountFrame ht h
  have bits := (withdraw_debtFrame h).bits u
  have small : (pool.reserves asset).configuration.getParams.liquidationThreshold < 10 ^ 4 :=
    accepted.threshold_lt
  have covered : 10 ^ 4 * 10 ^ 18 * account'.totalDebtInETH ≤
      10 ^ 18 * pool'.weightedThreshold u (pool'.usersConfig u) + 2 * 10 ^ 4 * 10 ^ 18 +
        10 ^ 4 * account'.totalDebtInETH := by
    obtain hnone | ⟨account, hbefore, hdebt⟩ :=
      balanceDecreaseAllowed_eq_ok hset hlt (withdraw_allowed h).2
    · have none : account'.totalDebtInETH = 0 := by
        refine totalDebt_of_not_borrowing (fun i => ?_) hdata
        rw [bits, UserConfigurationMap.isBorrowingAny_eq_false.mp hnone]
      omega
    · have less := frame.totalDebt_le bits hbefore hdata
      obtain hz | hallowed := hdebt
      · omega
      · have covers := decrease_covers hallowed
        obtain ⟨_, _, hcollateral, _, _, hthreshold, _⟩ := calculateUserAccountData_eq_ok hbefore
        have average := Nat.mul_div_le (pool.weightedThreshold u (pool.usersConfig u))
          (pool.totalCollateral u (pool.usersConfig u))
        rw [hcollateral, hthreshold] at covers
        unfold WAD at covers
        omega
  have exact : (10 ^ 4 * 10 ^ 18 * account'.totalDebtInETH : ℚ) ≤
      10 ^ 18 * pool'.weightedThreshold u (pool'.usersConfig u) + 2 * 10 ^ 4 * 10 ^ 18 +
        10 ^ 4 * account'.totalDebtInETH := by exact_mod_cast covered
  linarith

theorem borrowedMarket_reachable : Reachable .any 3 borrowedMarket :=
  Market.endState_reachable (by decide +kernel) (by decide +kernel)

/-- Bob takes ten dai from under his loan. -/
theorem borrowedMarket_withdraw :
    ∃ paid pool' account',
      borrowedMarket.withdraw 86400 Market.bob Market.dai (10 ^ 19) Market.bob =
        .ok (paid, pool') ∧
      pool'.calculateUserAccountData 86400 Market.bob (pool'.usersConfig Market.bob) =
        .ok account' ∧
      (10 ^ 4 * account'.totalDebtInETH : ℚ) ≤
        pool'.weightedThreshold Market.bob (pool'.usersConfig Market.bob) + 2 * 10 ^ 4 +
          10 ^ 4 * account'.totalDebtInETH / 10 ^ 18 := by
  have success : succeedsWith
      (borrowedMarket.withdraw 86400 Market.bob Market.dai (10 ^ 19) Market.bob)
      (fun result => (result.2.calculateUserAccountData 86400 Market.bob
        (result.2.usersConfig Market.bob)).isOk) = true := by decide +kernel
  obtain ⟨⟨paid, pool'⟩, hw, hok⟩ := succeedsWith_iff.mp success
  obtain ⟨account', hdata⟩ := exists_of_isOk hok
  exact ⟨paid, pool', account', hw, hdata,
    withdraw_leaves_collateral borrowedMarket_reachable (show (86400 : Nat) < 2 ^ 40 by decide)
      (by decide +kernel) (by decide +kernel) (by decide +kernel) (by decide +kernel) hw hdata⟩

end ElectroLend
