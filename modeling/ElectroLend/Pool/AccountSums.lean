import ElectroLend.Pool.Primitives
import Mathlib.Algebra.BigOperators.Group.Finset.Basic
import Mathlib.Algebra.Order.BigOperators.Group.Finset

namespace ElectroLend

open Outcome

namespace LendingPool

/-- What the user owes in the reserve of an asset, at the oracle's price. -/
def reserveDebtInETH (pool : LendingPool) (t : Nat) (user asset : Address) : Result Nat := do
  let reserve := pool.reserves asset
  let stableDebt ← reserve.stableDebtBalanceOf t user
  let variableDebt ← reserve.variableDebtBalanceOf t user
  pure (pool.priceOracle asset * (stableDebt + variableDebt) /
    tokenUnit reserve.configuration.getDecimals)

/-- The parameters of the reserve at a position. -/
def paramsAt (pool : LendingPool) (i : Nat) : ReserveConfigurationMap.Params :=
  (pool.reserves (pool.reservesList i)).configuration.getParams

/-- The reserve at a position counts as collateral. -/
def CountsAsCollateral (pool : LendingPool) (config : UserConfigurationMap) (i : Nat) : Prop :=
  (pool.paramsAt i).liquidationThreshold ≠ 0 ∧ config.collateralBit i = true

instance (pool : LendingPool) (config : UserConfigurationMap) (i : Nat) :
    Decidable (pool.CountsAsCollateral config i) :=
  inferInstanceAs (Decidable (_ ∧ _))

/-- The value of the elTokens at a position, when they count as collateral. -/
def collateralAt (pool : LendingPool) (user : Address) (config : UserConfigurationMap) (i : Nat) :
    Nat :=
  if pool.CountsAsCollateral config i then
    pool.priceOracle (pool.reservesList i) *
      (pool.reserves (pool.reservesList i)).elToken.balances user /
        tokenUnit (pool.paramsAt i).decimals
  else 0

def debtAt (pool : LendingPool) (t : Nat) (user : Address) (config : UserConfigurationMap)
    (i : Nat) : Result Nat :=
  if config.borrowingBit i = true then pool.reserveDebtInETH t user (pool.reservesList i)
  else .ok 0

def totalCollateral (pool : LendingPool) (user : Address) (config : UserConfigurationMap) : Nat :=
  ∑ i ∈ Finset.range pool.reservesCount, pool.collateralAt user config i

/-- The collateral weighted by the loan to value of each reserve. -/
def weightedLtv (pool : LendingPool) (user : Address) (config : UserConfigurationMap) : Nat :=
  ∑ i ∈ Finset.range pool.reservesCount, pool.collateralAt user config i * (pool.paramsAt i).ltv

/-- The collateral weighted by the liquidation threshold of each reserve. -/
def weightedThreshold (pool : LendingPool) (user : Address) (config : UserConfigurationMap) :
    Nat :=
  ∑ i ∈ Finset.range pool.reservesCount,
    pool.collateralAt user config i * (pool.paramsAt i).liquidationThreshold

variable {pool : LendingPool} {t i n : Nat} {user : Address} {config : UserConfigurationMap}
  {vars vars' : AccountTotals} {account : UserAccountData}

theorem addCollateral_adds (h : pool.addCollateral user config i vars = .ok vars') :
    vars' = { vars with
      totalCollateralInETH := vars.totalCollateralInETH + pool.collateralAt user config i
      avgLtv := vars.avgLtv + pool.collateralAt user config i * (pool.paramsAt i).ltv
      avgLiquidationThreshold := vars.avgLiquidationThreshold +
        pool.collateralAt user config i * (pool.paramsAt i).liquidationThreshold } := by
  simp only [addCollateral, bind_eq_ok, UserConfigurationMap.isUsingAsCollateral_eq_ok, ite_eq_ok,
    Reserve.elTokenBalanceOf, SafeMath.mul_eq_ok, SafeMath.add_eq_ok, SafeMath.div_eq_ok,
    pure_eq_ok, Except.ok.injEq] at h
  obtain ⟨used, ⟨_, hused⟩, ⟨hcounts, _, ⟨_, _, rfl⟩, _, ⟨_, rfl⟩, _, ⟨_, rfl⟩, _, ⟨_, rfl⟩, _,
    ⟨_, rfl⟩, _, ⟨_, rfl⟩, _, ⟨_, rfl⟩, _, ⟨_, rfl⟩, rfl⟩ | ⟨hnot, rfl⟩⟩ := h
  · have counts : pool.CountsAsCollateral config i := ⟨hcounts.1, hused.trans hcounts.2⟩
    simp only [collateralAt, if_pos counts]
    rfl
  · have counts : ¬pool.CountsAsCollateral config i := by
      intro hc
      exact hnot ⟨hc.1, hused.symm.trans hc.2⟩
    simp [collateralAt, if_neg counts]

theorem addDebt_adds (h : pool.addDebt t user config i vars = .ok vars') :
    ∃ debt, pool.debtAt t user config i = .ok debt ∧
      vars' = { vars with totalDebtInETH := vars.totalDebtInETH + debt } := by
  simp only [addDebt, bind_eq_ok, UserConfigurationMap.isBorrowing_eq_ok, ite_eq_ok,
    SafeMath.mul_eq_ok, SafeMath.add_eq_ok, SafeMath.div_eq_ok, pure_eq_ok, Except.ok.injEq] at h
  obtain ⟨borrowing, ⟨_, hbit⟩, ⟨htrue, _, hs, _, hv, _, ⟨_, rfl⟩, _, ⟨_, rfl⟩, _, ⟨_, rfl⟩, _,
    ⟨_, rfl⟩, rfl⟩ | ⟨hfalse, rfl⟩⟩ := h
  · refine ⟨_, ?_, rfl⟩
    rw [debtAt, if_pos (hbit.trans htrue)]
    simp only [reserveDebtInETH, hs, hv, ok_bind]
    rfl
  · refine ⟨0, ?_, rfl⟩
    rw [debtAt, if_neg (by rw [hbit]; exact hfalse)]

theorem addReserve_adds (h : pool.addReserve t user config vars i = .ok vars') :
    ∃ debt, pool.debtAt t user config i = .ok debt ∧
      vars' = {
        totalCollateralInETH := vars.totalCollateralInETH + pool.collateralAt user config i
        totalDebtInETH := vars.totalDebtInETH + debt
        avgLtv := vars.avgLtv + pool.collateralAt user config i * (pool.paramsAt i).ltv
        avgLiquidationThreshold := vars.avgLiquidationThreshold +
          pool.collateralAt user config i * (pool.paramsAt i).liquidationThreshold } := by
  simp only [addReserve, bind_eq_ok, UserConfigurationMap.isUsingAsCollateralOrBorrowing_eq_ok,
    ite_eq_ok, Except.ok.injEq] at h
  obtain ⟨active, ⟨_, hactive⟩, ⟨_, middle, hcollateral, hdebt⟩ | ⟨hno, rfl⟩⟩ := h
  · obtain ⟨debt, hd, rfl⟩ := addDebt_adds hdebt
    rw [addCollateral_adds hcollateral]
    exact ⟨debt, hd, rfl⟩
  · rw [← hactive, Bool.or_eq_true, not_or] at hno
    have none : pool.collateralAt user config i = 0 := if_neg fun hc => hno.2 hc.2
    refine ⟨0, ?_, ?_⟩
    · rw [debtAt, if_neg hno.1]
    · simp [none]

theorem addReserves_adds
    (h : (List.range n).foldlM (pool.addReserve t user config) ⟨0, 0, 0, 0⟩ = .ok vars') :
    ∃ debts : Nat → Nat, (∀ i, i < n → pool.debtAt t user config i = .ok (debts i)) ∧
      vars' = {
        totalCollateralInETH := ∑ i ∈ Finset.range n, pool.collateralAt user config i
        totalDebtInETH := ∑ i ∈ Finset.range n, debts i
        avgLtv := ∑ i ∈ Finset.range n, pool.collateralAt user config i * (pool.paramsAt i).ltv
        avgLiquidationThreshold := ∑ i ∈ Finset.range n,
          pool.collateralAt user config i * (pool.paramsAt i).liquidationThreshold } := by
  induction n generalizing vars' with
  | zero =>
    cases Except.ok.inj h
    exact ⟨fun _ => 0, fun i hi => absurd hi (Nat.not_lt_zero i), rfl⟩
  | succ n ih =>
    rw [List.range_succ, List.foldlM_append] at h
    obtain ⟨middle, hfirst, hlast⟩ := bind_eq_ok.mp h
    have hone : pool.addReserve t user config middle n = .ok vars' := by simpa using hlast
    obtain ⟨debts, hdebts, rfl⟩ := ih hfirst
    obtain ⟨debt, hdebt, rfl⟩ := addReserve_adds hone
    refine ⟨Function.update debts n debt, ?_, ?_⟩
    · intro i hi
      by_cases hn : i = n
      · subst hn
        rw [hdebt, Function.update_self]
      · rw [Function.update_of_ne hn]
        exact hdebts i (by omega)
    · have same : ∑ i ∈ Finset.range n, Function.update debts n debt i =
          ∑ i ∈ Finset.range n, debts i := by
        refine Finset.sum_congr rfl fun i hi => ?_
        exact Function.update_of_ne (Nat.ne_of_lt (Finset.mem_range.mp hi)) _ _
      simp only [Finset.sum_range_succ, same, Function.update_self]

theorem sum_range_change {f g : Nat → Nat} (hi : i < n)
    (same : ∀ j, j < n → j ≠ i → g j = f j) :
    ∑ j ∈ Finset.range n, g j + f i = ∑ j ∈ Finset.range n, f j + g i := by
  have hmem : i ∈ Finset.range n := Finset.mem_range.mpr hi
  have rest : ∑ j ∈ (Finset.range n).erase i, g j = ∑ j ∈ (Finset.range n).erase i, f j := by
    refine Finset.sum_congr rfl fun j hj => ?_
    exact same j (Finset.mem_range.mp (Finset.mem_of_mem_erase hj)) (Finset.ne_of_mem_erase hj)
  rw [← Finset.add_sum_erase _ f hmem, ← Finset.add_sum_erase _ g hmem, rest]
  omega

theorem averageOverCollateral_eq_ok {weighted total average : Nat}
    (h : averageOverCollateral weighted total = .ok average) : average = weighted / total := by
  simp only [averageOverCollateral, ite_eq_ok, SafeMath.div_eq_ok, Except.ok.injEq] at h
  obtain ⟨_, _, rfl⟩ | ⟨hz, rfl⟩ := h
  · rfl
  · have hz : total = 0 := by omega
    rw [hz, Nat.div_zero]

theorem collateralAt_clear (hbit : config.collateralBit i = false) :
    pool.collateralAt user config i = 0 := by
  refine if_neg ?_
  rintro ⟨_, hset⟩
  rw [hbit] at hset
  cases hset

theorem collateralAt_set {asset : Address} (hlist : pool.reservesList i = asset)
    (hlt : (pool.reserves asset).configuration.getParams.liquidationThreshold ≠ 0)
    (hbit : config.collateralBit i = true) :
    pool.collateralAt user config i =
      pool.priceOracle asset * (pool.reserves asset).elToken.balances user /
        tokenUnit (pool.reserves asset).configuration.getParams.decimals := by
  subst hlist
  exact if_pos ⟨hlt, hbit⟩

theorem collateralAt_empty (h : config.isEmpty = true) (i : Nat) :
    pool.collateralAt user config i = 0 :=
  collateralAt_clear (UserConfigurationMap.isEmpty_collateralBit h i)

theorem debtAt_empty (h : config.isEmpty = true) (i : Nat) :
    pool.debtAt t user config i = .ok 0 := by
  rw [debtAt, UserConfigurationMap.isEmpty_borrowingBit h]
  rfl

/-- The account data are the sums over the list, also for an account without any bit. -/
theorem calculateUserAccountData_eq_ok
    (h : pool.calculateUserAccountData t user config = .ok account) :
    ∃ debts : Nat → Nat,
      (∀ i, i < pool.reservesCount → pool.debtAt t user config i = .ok (debts i)) ∧
      account.totalCollateralInETH = pool.totalCollateral user config ∧
      account.totalDebtInETH = ∑ i ∈ Finset.range pool.reservesCount, debts i ∧
      account.avgLtv = pool.weightedLtv user config / pool.totalCollateral user config ∧
      account.avgLiquidationThreshold =
        pool.weightedThreshold user config / pool.totalCollateral user config ∧
      calculateHealthFactorFromBalances account.totalCollateralInETH account.totalDebtInETH
        account.avgLiquidationThreshold = .ok account.healthFactor := by
  obtain ⟨hempty, h⟩ | ⟨_, h⟩ := ite_eq_ok.mp h
  · cases Except.ok.inj h
    refine ⟨fun _ => 0, fun i _ => debtAt_empty hempty i, ?_, by simp, ?_, ?_, rfl⟩
    · simp [totalCollateral, collateralAt_empty hempty]
    · simp [weightedLtv, collateralAt_empty hempty]
    · simp [weightedThreshold, collateralAt_empty hempty]
  · simp only [bind_eq_ok, pure_eq_ok] at h
    obtain ⟨vars, hloop, ltv, hltv, threshold, hthreshold, _, hhealth, rfl⟩ := h
    obtain ⟨debts, hdebts, rfl⟩ := addReserves_adds hloop
    exact ⟨debts, hdebts, rfl, rfl, averageOverCollateral_eq_ok hltv,
      averageOverCollateral_eq_ok hthreshold, hhealth⟩

end LendingPool

end ElectroLend
