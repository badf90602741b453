import ElectroLend.Lending.StableReads
import ElectroLend.Pool.Scripts
import ElectroLend.Pool.TouchesOnly

namespace ElectroLend

open Outcome

namespace LendingPool

/-- Both debts of a user in a reserve, as the tokens report them. -/
def totalUserDebt (pool : LendingPool) (t : Nat) (asset u : Address) : Result Nat := do
  let (stableDebt, variableDebt) ← (pool.reserves asset).getUserCurrentDebt t u
  SafeMath.add stableDebt variableDebt

/-- What a rebalance is for: the user owes as much as before, up to rounding by the variable index,
none of it has become variable, and the stable debt carries the reserve's stable rate. -/
structure RebalanceKeepsDebt (pool pool' : LendingPool) (t : Nat) (asset u : Address) : Prop where
  total : ∃ before after, pool.totalUserDebt t asset u = .ok before ∧
    pool'.totalUserDebt t asset u = .ok after ∧
    after ≤ before + ((pool'.reserves asset).variableBorrowIndex / (2 * RAY) + 1) ∧
    before ≤ after + ((pool'.reserves asset).variableBorrowIndex / (2 * RAY) + 1)
  scaled : (pool'.reserves asset).variableDebtToken.scaledBalanceOf u =
    (pool.reserves asset).variableDebtToken.scaledBalanceOf u
  rate : (pool'.reserves asset).stableDebtToken.getUserStableRate u =
    (pool.reserves asset).currentStableBorrowRate

variable {pool pool' : LendingPool} {t : Nat} {asset u : Address}

/-- A rebalance closes the stable debt and opens variable debt for it, scaled by the variable rate
as if that were the index. -/
theorem rebalanceStableBorrowRate_effect
    (h : pool.rebalanceStableBorrowRate t asset u = .ok pool') :
    ∃ stableDebt scaled, (pool.reserves asset).stableDebtBalanceOf t u = .ok stableDebt ∧
      rayDiv stableDebt (pool.reserves asset).currentVariableBorrowRate = .ok scaled ∧
      scaled ≠ 0 ∧ (pool'.reserves asset).stableDebtToken.principalBalanceOf u = 0 ∧
      (pool'.reserves asset).variableDebtToken.scaledBalanceOf u =
        (pool.reserves asset).variableDebtToken.scaledBalanceOf u + scaled := by
  obtain ⟨stableDebt, p₁, p₂, _, p₃, hs, h₁, h₂, h₃, h₄⟩ := rebalanceStableBorrowRate_eq_ok h
  obtain ⟨r₁, hr₁, rfl⟩ := updateState_eq_ok h₁
  obtain ⟨_, _, _, _, _, _, hr₁eq, _⟩ := Reserve.updateState_eq_ok hr₁
  obtain ⟨stableToken, hburn, rfl⟩ := burnStableDebt_eq_ok h₂
  obtain ⟨balance, _, hbal, _, _, _, hprincipals, _⟩ := StableDebtToken.burn_eq_ok hburn
  obtain ⟨variableToken, hmint, rfl⟩ := mintVariableDebt_eq_ok h₃
  obtain ⟨scaled, hd, hne, hbals, _⟩ := VariableDebtToken.mint_eq_ok hmint
  obtain ⟨r₄, hr₄, rfl⟩ := updateInterestRates_eq_ok h₄
  obtain ⟨_, _, rfl⟩ := Reserve.updateInterestRates_eq_ok hr₄
  have closed : balance = stableDebt := by
    rw [setReserve_reserves, Function.update_self, hr₁eq] at hbal
    exact ok_unique hbal (Reserve.stableDebtBalanceOf_view hs)
  refine ⟨stableDebt, scaled, hs, ?_, hne, ?_, ?_⟩
  · simpa [hr₁eq] using hd
  · simp [StableDebtToken.principalBalanceOf, hprincipals, closed]
  · simp [VariableDebtToken.scaledBalanceOf, hbals, hr₁eq]

end LendingPool

open LendingPool

/-- No successful rebalance keeps the debt as it was: it always turns stable debt into variable
debt. -/
theorem rebalance_never_keeps_debt {pool pool' : LendingPool} {t : Nat} {asset u : Address}
    (h : pool.rebalanceStableBorrowRate t asset u = .ok pool') :
    ¬pool.RebalanceKeepsDebt pool' t asset u := by
  obtain ⟨_, scaled, _, _, hne, _, hscaled⟩ := rebalanceStableBorrowRate_effect h
  intro keeps
  have hsame := keeps.scaled
  omega

/-- Bob has borrowed 96 of 100 weth, 25 of them at the stable rate. -/
def borrowedOutMarket : LendingPool :=
  Market.endState (Market.setup 6000 ++
    [(1, Market.alice, .deposit Market.weth (10 ^ 20) Market.alice),
      (2, Market.bob, .deposit Market.dai (10 ^ 21) Market.bob),
      (3, Market.bob, .borrow Market.weth (25 * 10 ^ 18) 1 Market.bob),
      (4, Market.bob, .borrow Market.weth (71 * 10 ^ 18) 2 Market.bob)])

/-- Anyone can rebalance bob, whose debt then grows by more than 20 weth at once. -/
theorem borrowedOutMarket_rebalance :
    Reachable .any 4 borrowedOutMarket ∧
      ∃ pool' before after,
        borrowedOutMarket.rebalanceStableBorrowRate 5 Market.weth Market.bob = .ok pool' ∧
        borrowedOutMarket.totalUserDebt 5 Market.weth Market.bob = .ok before ∧
        pool'.totalUserDebt 5 Market.weth Market.bob = .ok after ∧
        before + 20 * 10 ^ 18 < after ∧
        ¬borrowedOutMarket.RebalanceKeepsDebt pool' 5 Market.weth Market.bob := by
  refine ⟨Market.endState_reachable (by decide +kernel) (by decide +kernel), ?_⟩
  have before : succeedsWith (borrowedOutMarket.totalUserDebt 5 Market.weth Market.bob)
      (fun debt => decide (debt < 97 * 10 ^ 18)) = true := by decide +kernel
  have after : succeedsWith
      (borrowedOutMarket.rebalanceStableBorrowRate 5 Market.weth Market.bob >>= fun pool' =>
        pool'.totalUserDebt 5 Market.weth Market.bob)
      (fun debt => decide (117 * 10 ^ 18 < debt)) = true := by decide +kernel
  obtain ⟨before, hbefore, hlow⟩ := succeedsWith_iff.mp before
  obtain ⟨after, hafter, hhigh⟩ := succeedsWith_iff.mp after
  obtain ⟨pool', hrebalance, hafter⟩ := bind_eq_ok.mp hafter
  simp only [decide_eq_true_eq] at hlow hhigh
  refine ⟨pool', before, after, hrebalance, hbefore, hafter, by omega, fun keeps => ?_⟩
  obtain ⟨_, scaled, _, _, hne, _, hscaled⟩ := rebalanceStableBorrowRate_effect hrebalance
  have hsame := keeps.scaled
  omega

theorem borrowedOutMarket_debt_not_kept :
    ∃ pool', borrowedOutMarket.rebalanceStableBorrowRate 5 Market.weth Market.bob = .ok pool' ∧
      ¬borrowedOutMarket.RebalanceKeepsDebt pool' 5 Market.weth Market.bob := by
  have success : (borrowedOutMarket.rebalanceStableBorrowRate 5 Market.weth
      Market.bob).isOk = true := by decide +kernel
  obtain ⟨pool', hrebalance⟩ := exists_of_isOk success
  exact ⟨pool', hrebalance, rebalance_never_keeps_debt hrebalance⟩

end ElectroLend
