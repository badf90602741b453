import ElectroLend.Pool.Configurator
import ElectroLend.Pool.HealthFactor
import ElectroLend.Pool.LoanDebts
import ElectroLend.Properties.AccountDebt
import Mathlib.Algebra.BigOperators.Ring.Finset
import Mathlib.Algebra.Order.Floor.Div

namespace ElectroLend

open Outcome

/-- What an average loan to value allows lies below the liquidation limit of an average threshold
that is no lower: the two roundings cannot meet below the whole. -/
theorem covered_by_ltv {debt collateral ltv threshold : Nat} (hpos : 0 < ltv)
    (hle : ltv ≤ threshold) (hlt : ltv < PERCENTAGE_FACTOR)
    (h : halfUp (debt * PERCENTAGE_FACTOR) ltv ≤ collateral) :
    debt ≤ halfUp (collateral * threshold) PERCENTAGE_FACTOR := by
  have needed := HalfUp.lt_mul_succ (debt * PERCENTAGE_FACTOR) hpos
  have room : ltv * (halfUp (debt * PERCENTAGE_FACTOR) ltv + 1) ≤ ltv * collateral + ltv :=
    Nat.mul_le_mul_left ltv (Nat.succ_le_succ h)
  have limit : ltv * collateral ≤ collateral * threshold := by
    rw [Nat.mul_comm]
    exact Nat.mul_le_mul_left collateral hle
  unfold halfUp
  rw [Nat.le_div_iff_mul_le (by decide)]
  unfold PERCENTAGE_FACTOR at *
  omega

namespace LendingPool

variable {pool pool' : LendingPool} {t amount : Nat} {asset u : Address}
  {config : UserConfigurationMap}

section Averages

variable (accepted : ∀ i, i < pool.reservesCount →
  (pool.reserves (pool.reservesList i)).configuration.Accepted)

include accepted

theorem weightedLtv_le : pool.weightedLtv u config ≤ pool.weightedThreshold u config := by
  refine Finset.sum_le_sum fun i hi => Nat.mul_le_mul_left _ ?_
  exact (accepted i (Finset.mem_range.mp hi)).ltv_le

theorem averageThreshold_lt :
    pool.weightedThreshold u config / pool.totalCollateral u config < PERCENTAGE_FACTOR := by
  have weighted : pool.weightedThreshold u config ≤
      pool.totalCollateral u config * (PERCENTAGE_FACTOR - 1) := by
    rw [totalCollateral, Finset.sum_mul]
    refine Finset.sum_le_sum fun i hi => Nat.mul_le_mul_left _ ?_
    exact Nat.le_sub_one_of_lt (accepted i (Finset.mem_range.mp hi)).threshold_lt
  have average := Nat.div_le_of_le_mul weighted
  have hfactor : 0 < PERCENTAGE_FACTOR := by decide
  omega

/-- A borrow is only let through within the liquidation limit of the account before it. -/
theorem validateBorrow_within_limit {amountInETH mode : Nat}
    (h : pool.validateBorrow t asset u amount amountInETH mode = .ok ()) :
    ∃ account, pool.calculateUserAccountData t u (pool.usersConfig u) = .ok account ∧
      account.totalDebtInETH + amountInETH ≤
        halfUp (account.totalCollateralInETH * account.avgLiquidationThreshold)
          PERCENTAGE_FACTOR := by
  simp only [validateBorrow, bind_eq_ok, require_eq_ok, SafeMath.add_eq_ok,
    percentDiv_eq_ok] at h
  obtain ⟨_, _, _, _, _, _, _, _, _, _, account, hdata, _, _, _, _, _, ⟨_, rfl⟩, _,
    ⟨⟨hne, _⟩, rfl⟩, _, hle, _⟩ := h
  refine ⟨account, hdata, ?_⟩
  obtain ⟨_, _, _, _, hltv, hthreshold, _⟩ := calculateUserAccountData_eq_ok hdata
  have order : account.avgLtv ≤ account.avgLiquidationThreshold := by
    rw [hltv, hthreshold]
    exact Nat.div_le_div_right (weightedLtv_le accepted)
  have bound : account.avgLiquidationThreshold < PERCENTAGE_FACTOR := by
    rw [hthreshold]
    exact averageThreshold_lt accepted
  exact covered_by_ltv (Nat.pos_of_ne_zero hne) order (by omega) hle

end Averages

theorem div_le_add_ceil {a b c m d : Nat} (h : m ≤ a + b + c) :
    m / d ≤ a / d + b / d + c ⌈/⌉ d + 1 := by
  obtain rfl | hd := Nat.eq_zero_or_pos d
  · simp
  · have up : c ≤ d * (c ⌈/⌉ d) := le_smul_ceilDiv hd
    have parts : m / d ≤ (a + d * (c ⌈/⌉ d)) / d + b / d + 1 := HalfUp.div_le_add_div (by omega)
    rw [Nat.add_mul_div_left _ _ hd] at parts
    omega

theorem reserveDebtInETH_congr (hprice : pool'.priceOracle = pool.priceOracle)
    (hreserve : pool'.reserves asset = pool.reserves asset) :
    pool'.reserveDebtInETH t u asset = pool.reserveDebtInETH t u asset := by
  simp only [reserveDebtInETH, hprice, hreserve]

theorem OpensLoan.reserveDebtInETH_le {vars : ExecuteBorrowParams} {debt debt' : Nat}
    (ht : IsBlockTimestamp t) (loan : OpensLoan t vars pool pool')
    (h : pool.reserveDebtInETH t vars.onBehalfOf vars.asset = .ok debt)
    (h' : pool'.reserveDebtInETH t vars.onBehalfOf vars.asset = .ok debt') :
    debt' ≤ debt +
      pool.priceOracle vars.asset * vars.amount /
        tokenUnit (pool.reserves vars.asset).configuration.getDecimals +
      (pool.priceOracle vars.asset *
        ((pool'.reserves vars.asset).variableBorrowIndex / (2 * RAY) + 1)) ⌈/⌉
          tokenUnit (pool.reserves vars.asset).configuration.getDecimals + 1 := by
  simp only [reserveDebtInETH, bind_eq_ok, pure_eq_ok] at h h'
  obtain ⟨stable, hs, variableDebt, hv, rfl⟩ := h
  obtain ⟨stable', hs', variableDebt', hv', rfl⟩ := h'
  have owed := loan.debt_le ht hs hv hs' hv'
  rw [loan.frame.price, loan.frame.configuration]
  refine div_le_add_ceil ?_
  rw [← Nat.mul_add, ← Nat.mul_add]
  exact Nat.mul_le_mul_left _ owed

theorem OpensLoan.totalDebt_le {vars : ExecuteBorrowParams} (ht : IsBlockTimestamp t)
    (inv : pool.DebtsMarked) (inv' : pool'.DebtsMarked) (loan : OpensLoan t vars pool pool')
    {account account' : UserAccountData}
    (hdata : pool.calculateUserAccountData t vars.onBehalfOf (pool.usersConfig vars.onBehalfOf) =
      .ok account)
    (hdata' : pool'.calculateUserAccountData t vars.onBehalfOf
      (pool'.usersConfig vars.onBehalfOf) = .ok account') :
    account'.totalDebtInETH ≤ account.totalDebtInETH +
      pool.priceOracle vars.asset * vars.amount /
        tokenUnit (pool.reserves vars.asset).configuration.getDecimals +
      (pool.priceOracle vars.asset *
        ((pool'.reserves vars.asset).variableBorrowIndex / (2 * RAY) + 1)) ⌈/⌉
          tokenUnit (pool.reserves vars.asset).configuration.getDecimals + 1 := by
  obtain ⟨debts, hdebts, _, hsum, _⟩ := calculateUserAccountData_eq_ok hdata
  obtain ⟨debts', hdebts', _, hsum', _⟩ := calculateUserAccountData_eq_ok hdata'
  have each : ∀ i, i < pool.reservesCount →
      pool.reserveDebtInETH t vars.onBehalfOf (pool.reservesList i) = .ok (debts i) ∧
      pool'.reserveDebtInETH t vars.onBehalfOf (pool.reservesList i) = .ok (debts' i) := by
    intro i hi
    have hi' : i < pool'.reservesCount := by rwa [loan.frame.count]
    refine ⟨?_, ?_⟩
    · rw [← inv.debtAt hi]
      exact hdebts i hi
    · rw [← loan.frame.list, ← inv'.debtAt hi']
      exact hdebts' i hi'
  have listed : (pool.reserves vars.asset).variableDebtTokenAddress ≠ 0 := by
    obtain ⟨r, hr, _⟩ := loan.accrued
    obtain ⟨_, _, _, hlisted, _⟩ := Reserve.updateState_eq_ok hr
    exact hlisted
  obtain hblank | ⟨_, hid, hlist⟩ := inv.listing.known vars.asset
  · exact absurd hblank.variableDebtToken listed
  have same : ∀ i, i < pool.reservesCount → i ≠ (pool.reserves vars.asset).id →
      debts' i = debts i := by
    intro i hi hne
    have other : pool.reservesList i ≠ vars.asset := by
      intro heq
      have hi := (inv.listing.listed i hi).2
      rw [heq] at hi
      exact hne hi.symm
    obtain ⟨hbefore, hafter⟩ := each i hi
    rw [reserveDebtInETH_congr loan.frame.price (loan.others _ other)] at hafter
    exact ok_unique hafter hbefore
  have change := sum_range_change hid same
  obtain ⟨hbefore, hafter⟩ := each _ hid
  rw [hlist] at hbefore hafter
  have grown := loan.reserveDebtInETH_le ht hbefore hafter
  rw [hsum', hsum, loan.frame.count]
  omega

end LendingPool

open LendingPool

/-- A new loan is not immediately liquidatable: the borrower's debt exceeds his liquidation limit
by no more than what rounding can add. -/
theorem borrow_within_liquidation_limit {pool pool' : LendingPool} {t t₀ amount mode limit : Nat}
    {msgSender asset u : Address} {account' : UserAccountData}
    (reach : Reachable .any t₀ pool) (ht : IsBlockTimestamp t)
    (accepted : ∀ i, i < pool.reservesCount →
      (pool.reserves (pool.reservesList i)).configuration.Accepted)
    (hu : u ≠ (pool.reserves asset).elToken.treasury)
    (h : pool.borrow t msgSender asset amount mode u = .ok pool')
    (hdata : pool'.calculateUserAccountData t u (pool'.usersConfig u) = .ok account')
    (hlimit : percentMul account'.totalCollateralInETH account'.avgLiquidationThreshold =
      .ok limit) :
    account'.totalDebtInETH ≤ limit + (2 +
      (pool'.priceOracle asset *
        ((pool'.reserves asset).variableBorrowIndex / (2 * RAY) + 1)) ⌈/⌉
          tokenUnit (pool'.reserves asset).configuration.getDecimals) := by
  have inv := reach.marked
  have inv' := borrow_marked inv h
  simp only [borrow, bind_eq_ok] at h
  obtain ⟨_, _, hexec⟩ := h
  have loan := executeBorrow_opensLoan hexec
  obtain ⟨_, _, _, _, _, hvalid, _⟩ := executeBorrow_eq_ok hexec
  dsimp only at hvalid
  obtain ⟨account, hbefore, within⟩ := validateBorrow_within_limit accepted hvalid
  have grown := loan.totalDebt_le ht inv inv' hbefore hdata
  have positions := loan.samePositions hu
  obtain ⟨_, _, hc, _, _, hthreshold, _⟩ := calculateUserAccountData_eq_ok hbefore
  obtain ⟨_, _, hc', _, _, hthreshold', _⟩ := calculateUserAccountData_eq_ok hdata
  rw [positions.totalCollateral] at hc'
  rw [positions.totalCollateral, positions.weightedThreshold] at hthreshold'
  obtain ⟨_, rfl⟩ := percentMul_eq_ok.mp hlimit
  rw [hthreshold.trans hthreshold'.symm, hc.trans hc'.symm] at within
  dsimp only at grown
  rw [loan.frame.price, loan.frame.configuration]
  omega

/-- Alice offers weth; bob has only put up dai. -/
def suppliedMarket : LendingPool :=
  Market.endState (Market.setup 1000 ++
    [(1, Market.alice, .deposit Market.weth (10 ^ 20) Market.alice),
      (2, Market.bob, .deposit Market.dai (10 ^ 20) Market.bob)])

theorem suppliedMarket_reachable : Reachable .any 2 suppliedMarket :=
  Market.endState_reachable (by decide +kernel) (by decide +kernel)

/-- Bob borrows weth at the variable rate. -/
theorem suppliedMarket_borrow :
    ∃ pool' account' limit,
      suppliedMarket.borrow 3 Market.bob Market.weth (5 * 10 ^ 19) 2 Market.bob = .ok pool' ∧
      pool'.calculateUserAccountData 3 Market.bob (pool'.usersConfig Market.bob) = .ok account' ∧
      percentMul account'.totalCollateralInETH account'.avgLiquidationThreshold = .ok limit ∧
      account'.totalDebtInETH ≤ limit + (2 + (pool'.priceOracle Market.weth *
        ((pool'.reserves Market.weth).variableBorrowIndex / (2 * RAY) + 1)) ⌈/⌉
          tokenUnit (pool'.reserves Market.weth).configuration.getDecimals) := by
  have success : succeedsWith
      (suppliedMarket.borrow 3 Market.bob Market.weth (5 * 10 ^ 19) 2 Market.bob)
      (fun pool' => succeedsWith
        (pool'.calculateUserAccountData 3 Market.bob (pool'.usersConfig Market.bob))
        (fun account' => (percentMul account'.totalCollateralInETH
          account'.avgLiquidationThreshold).isOk)) = true := by decide +kernel
  obtain ⟨pool', hb, hafter⟩ := succeedsWith_iff.mp success
  obtain ⟨account', hdata, hok⟩ := succeedsWith_iff.mp hafter
  obtain ⟨limit, hlimit⟩ := exists_of_isOk hok
  exact ⟨pool', account', limit, hb, hdata, hlimit,
    borrow_within_liquidation_limit suppliedMarket_reachable (show (3 : Nat) < 2 ^ 40 by decide)
      (by decide +kernel) (by decide +kernel) hb hdata hlimit⟩

end ElectroLend
