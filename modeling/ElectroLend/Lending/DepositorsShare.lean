import ElectroLend.Lending.RateInputs

namespace ElectroLend

open Outcome

namespace DefaultReserveInterestRateStrategy

/-- The variable rate of a reserve that is lent out. -/
def lentOutVariableRate (strategy : DefaultReserveInterestRateStrategy) : Nat :=
  strategy.baseVariableBorrowRate + strategy.variableRateSlope1 +
    if strategy.OPTIMAL_UTILIZATION_RATE = RAY then 0 else strategy.variableRateSlope2

def averageRate (stableDebt variableDebt variableRate stableRate : Nat) : Nat :=
  halfUp ((halfUp (variableDebt * WAD_RAY_RATIO * variableRate) RAY +
    halfUp (stableDebt * WAD_RAY_RATIO * stableRate) RAY) * RAY)
    ((stableDebt + variableDebt) * WAD_RAY_RATIO)

variable {strategy : DefaultReserveInterestRateStrategy} {market : Nat} {rates : InterestRates}
  {stableDebt variableDebt averageStableRate factor variableRate stableRate overall : Nat}

theorem borrowRates_lent_out (h : strategy.borrowRates market RAY = .ok (stableRate, variableRate)) :
    variableRate = strategy.lentOutVariableRate := by
  have hle := strategy.optimal_le_ray
  simp only [borrowRates, ite_eq_ok, bind_eq_ok, pure_eq_ok, SafeMath.sub_eq_ok, SafeMath.add_eq_ok,
    Prod.mk.injEq] at h
  unfold lentOutVariableRate
  obtain ⟨hlt, _, ⟨_, rfl⟩, ratio, hratio, _, _, _, _, _, _, _, ⟨_, rfl⟩, excess, hexcess, _,
    ⟨_, rfl⟩, _, rfl⟩ | ⟨hge, ratio, _, _, _, _, _, product, hproduct, share, hshare, _, ⟨_, rfl⟩, _,
    rfl⟩ := h
  · rw [if_neg (by omega)]
    cases rayDiv_self hratio
    rw [rayMul_by_ray hexcess]
  · have hoptimal : strategy.OPTIMAL_UTILIZATION_RATE = RAY := by omega
    rw [hoptimal] at hshare
    rw [if_pos hoptimal, rayDiv_by_ray hshare, rayMul_one_ray hproduct, Nat.add_zero]

theorem getOverallBorrowRate_eq_ok (hdebt : stableDebt + variableDebt ≠ 0)
    (h : getOverallBorrowRate stableDebt variableDebt variableRate stableRate = .ok overall) :
    overall = averageRate stableDebt variableDebt variableRate stableRate := by
  simp only [getOverallBorrowRate, bind_eq_ok, ite_eq_ok, SafeMath.add_eq_ok, wadToRay_eq_ok,
    Except.ok.injEq] at h
  obtain ⟨_, ⟨_, rfl⟩, ⟨hz, _⟩ | ⟨_, _, ⟨_, rfl⟩, _, hv, _, ⟨_, rfl⟩, _, hs, _, ⟨_, rfl⟩, _,
    ⟨_, rfl⟩, hd⟩⟩ := h
  · exact absurd hz hdebt
  · obtain ⟨_, rfl⟩ := rayMul_eq_ok.mp hv
    obtain ⟨_, rfl⟩ := rayMul_eq_ok.mp hs
    obtain ⟨_, rfl⟩ := rayDiv_eq_ok.mp hd
    rfl

/-- Without liquidity there is a rate exactly when there is debt, and the share of its average rate
that is left for the depositors does not round to nothing. -/
theorem ratesAtLiquidity_lent_out
    (h : strategy.ratesAtLiquidity market 0 stableDebt variableDebt averageStableRate factor =
      .ok rates) :
    rates.liquidityRate ≠ 0 ↔ stableDebt + variableDebt ≠ 0 ∧
      PERCENTAGE_FACTOR / 2 ≤ averageRate stableDebt variableDebt strategy.lentOutVariableRate
        averageStableRate * (PERCENTAGE_FACTOR - factor) := by
  simp only [ratesAtLiquidity, utilizationRate, bind_eq_ok, ite_eq_ok, pure_eq_ok,
    SafeMath.add_eq_ok, SafeMath.sub_eq_ok, Prod.exists, Except.ok.injEq] at h
  obtain ⟨_, ⟨_, rfl⟩, utilization, hutilization, stableRate, variableRate, hrates, overall,
    hoverall, gross, hgross, _, ⟨_, rfl⟩, share, hshare, rfl⟩ := h
  obtain ⟨_, rfl⟩ := percentMul_eq_ok.mp hshare
  obtain ⟨hz, rfl⟩ | ⟨hne, _, ⟨_, rfl⟩, hfull⟩ := hutilization
  · simp only [getOverallBorrowRate, SafeMath.add_eq_ok, bind_eq_ok, ite_eq_ok,
      Except.ok.injEq] at hoverall
    obtain ⟨_, ⟨_, rfl⟩, ⟨_, rfl⟩ | ⟨hne, _⟩⟩ := hoverall
    · obtain ⟨_, rfl⟩ := rayMul_eq_ok.mp hgross
      simp [hz]
    · exact absurd hz hne
  · rw [Nat.zero_add] at hfull
    cases rayDiv_self hfull
    cases borrowRates_lent_out hrates
    rw [rayMul_by_ray hgross, getOverallBorrowRate_eq_ok hne hoverall,
      HalfUp.ne_zero_iff (by decide)]
    unfold PERCENTAGE_FACTOR
    omega

end DefaultReserveInterestRateStrategy

namespace Reserve

open DefaultReserveInterestRateStrategy

/-- The debts that the tokens record pay the depositors something, once all the liquidity is
lent. -/
def paysDepositors (r : Reserve) (t : Nat) : Bool :=
  succeedsWith (do
      let (stableDebt, averageStableRate) ← r.stableDebtToken.getTotalSupplyAndAvgRate t
      let variableDebt ← rayMul r.variableDebtToken.scaledTotalSupply r.variableBorrowIndex
      pure (stableDebt, averageStableRate, variableDebt))
    fun (stableDebt, averageStableRate, variableDebt) => decide (stableDebt + variableDebt ≠ 0 ∧
      PERCENTAGE_FACTOR / 2 ≤ averageRate stableDebt variableDebt
        r.interestRateStrategy.lentOutVariableRate averageStableRate *
          (PERCENTAGE_FACTOR - r.configuration.getReserveFactor))

/-- Rates stored for no liquidity are zero for the depositors exactly when the debts pay them
nothing. -/
theorem RatesAt.lent_out {r : Reserve} {t market : Nat} (h : r.RatesAt t market 0) :
    r.currentLiquidityRate ≠ 0 ↔ r.paysDepositors t = true := by
  simp only [RatesAt, calculateInterestRates, bind_eq_ok, Prod.exists] at h
  obtain ⟨stableDebt, averageStableRate, hs, variableDebt, hv, hrates⟩ := h
  obtain ⟨_, hrates⟩ := calculateInterestRates_eq_ok hrates
  have hlent := ratesAtLiquidity_lent_out hrates
  have debts : (do
      let (stableDebt, averageStableRate) ← r.stableDebtToken.getTotalSupplyAndAvgRate t
      let variableDebt ← rayMul r.variableDebtToken.scaledTotalSupply r.variableBorrowIndex
      pure (stableDebt, averageStableRate, variableDebt) : Result (Nat × Nat × Nat)) =
        .ok (stableDebt, averageStableRate, variableDebt) := by
    simp only [hs, hv, ok_bind]
    rfl
  rw [paysDepositors, debts]
  simp only [succeedsWith, decide_eq_true_eq]
  exact hlent

end Reserve

end ElectroLend
