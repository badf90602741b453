import ElectroLend.Lending.RateInputs

namespace ElectroLend

open Outcome

namespace DefaultReserveInterestRateStrategy

/-- What `ratesAtLiquidity` calculates up to the reserve factor: the liquidity rate is what the
borrowers pay on all of the liquidity. -/
def grossRatesAtLiquidity (strategy : DefaultReserveInterestRateStrategy)
    (marketBorrowRate availableLiquidity totalStableDebt totalVariableDebt
      averageStableBorrowRate : Nat) : Result InterestRates := do
  let totalDebt ← SafeMath.add totalStableDebt totalVariableDebt
  let utilization ← utilizationRate totalDebt availableLiquidity
  let (stableBorrowRate, variableBorrowRate) ← strategy.borrowRates marketBorrowRate utilization
  let overall ← getOverallBorrowRate totalStableDebt totalVariableDebt variableBorrowRate
    averageStableBorrowRate
  let liquidityRate ← rayMul overall utilization
  pure { liquidityRate, stableBorrowRate, variableBorrowRate }

variable {strategy : DefaultReserveInterestRateStrategy}
  {market liquidity stable debt avg factor : Nat} {rates : InterestRates}

theorem ratesAtLiquidity_eq_ok :
    strategy.ratesAtLiquidity market liquidity stable debt avg factor = .ok rates ↔
      ∃ gross, strategy.grossRatesAtLiquidity market liquidity stable debt avg = .ok gross ∧
        factor ≤ PERCENTAGE_FACTOR ∧
        percentMul gross.liquidityRate (PERCENTAGE_FACTOR - factor) = .ok rates.liquidityRate ∧
        rates.stableBorrowRate = gross.stableBorrowRate ∧
        rates.variableBorrowRate = gross.variableBorrowRate := by
  simp only [ratesAtLiquidity, grossRatesAtLiquidity, bind_eq_ok, pure_eq_ok, SafeMath.sub_eq_ok,
    Prod.exists]
  constructor
  · intro h
    obtain ⟨total, htotal, utilization, hu, stableRate, variableRate, hrates, overall, ho, gross,
      hgross, _, ⟨hle, rfl⟩, share, hshare, rfl⟩ := h
    exact ⟨_, ⟨total, htotal, utilization, hu, stableRate, variableRate, hrates, overall, ho, gross,
      hgross, rfl⟩, hle, hshare, rfl, rfl⟩
  · intro h
    obtain ⟨_, ⟨total, htotal, utilization, hu, stableRate, variableRate, hrates, overall, ho, gross,
      hgross, rfl⟩, hle, hshare, hs, hv⟩ := h
    cases rates
    cases hs
    cases hv
    exact ⟨total, htotal, utilization, hu, stableRate, variableRate, hrates, overall, ho, gross,
      hgross, _, ⟨hle, rfl⟩, _, hshare, rfl⟩

end DefaultReserveInterestRateStrategy

namespace Reserve

variable {r r' : Reserve} {t market balance added taken : Nat}

/-- The gross rates for the debts the reserve's tokens report. -/
def grossRates (reserve : Reserve)
    (blockTimestamp marketBorrowRate balance liquidityAdded liquidityTaken : Nat) :
    Result InterestRates := do
  let (totalStableDebt, avgStableRate) ←
    reserve.stableDebtToken.getTotalSupplyAndAvgRate blockTimestamp
  let totalVariableDebt ←
    rayMul reserve.variableDebtToken.scaledTotalSupply reserve.variableBorrowIndex
  let withAdded ← SafeMath.add balance liquidityAdded
  let availableLiquidity ← SafeMath.sub withAdded liquidityTaken .safeMathSubtractionOverflow
  reserve.interestRateStrategy.grossRatesAtLiquidity marketBorrowRate availableLiquidity
    totalStableDebt totalVariableDebt avgStableRate

def depositorsRate (gross factor : Nat) : Nat :=
  halfUp (gross * (PERCENTAGE_FACTOR - factor)) PERCENTAGE_FACTOR

theorem depositorsRate_anti (gross : Nat) {factor factor' : Nat} (h : factor ≤ factor') :
    depositorsRate gross factor' ≤ depositorsRate gross factor :=
  HalfUp.mono (Nat.mul_le_mul_left _ (Nat.sub_le_sub_left h _))

theorem percentMul_depositors {gross factor : Nat} (h : depositorsRate gross factor ≤ uint128Max) :
    percentMul gross (PERCENTAGE_FACTOR - factor) = .ok (depositorsRate gross factor) := by
  have high := HalfUp.lt_mul_succ (gross * (PERCENTAGE_FACTOR - factor))
    (show 0 < PERCENTAGE_FACTOR by decide)
  have small : PERCENTAGE_FACTOR * (depositorsRate gross factor + 1) ≤
      PERCENTAGE_FACTOR * (uint128Max + 1) := Nat.mul_le_mul_left _ (Nat.succ_le_succ h)
  have fits : PERCENTAGE_FACTOR * (uint128Max + 1) ≤ uint256Max := by decide
  have half : HALF_PERCENT = PERCENTAGE_FACTOR / 2 := rfl
  unfold depositorsRate at small
  exact percentMul_eq_ok.mpr ⟨by omega, rfl⟩

theorem calculateInterestRates_gross {rates : InterestRates} :
    r.calculateInterestRates t market balance added taken = .ok rates ↔
      ∃ gross, r.grossRates t market balance added taken = .ok gross ∧
        r.configuration.getReserveFactor ≤ PERCENTAGE_FACTOR ∧
        percentMul gross.liquidityRate (PERCENTAGE_FACTOR - r.configuration.getReserveFactor) =
          .ok rates.liquidityRate ∧
        rates.stableBorrowRate = gross.stableBorrowRate ∧
        rates.variableBorrowRate = gross.variableBorrowRate := by
  simp only [calculateInterestRates, DefaultReserveInterestRateStrategy.calculateInterestRates,
    grossRates, DefaultReserveInterestRateStrategy.ratesAtLiquidity_eq_ok, bind_eq_ok, Prod.exists]
  constructor
  · intro h
    obtain ⟨supply, avg, hs, debt, hd, withAdded, ha, available, hl, gross, hgross, hrest⟩ := h
    exact ⟨gross, ⟨supply, avg, hs, debt, hd, withAdded, ha, available, hl, hgross⟩, hrest⟩
  · intro h
    obtain ⟨gross, ⟨supply, avg, hs, debt, hd, withAdded, ha, available, hl, hgross⟩, hrest⟩ := h
    exact ⟨supply, avg, hs, debt, hd, withAdded, ha, available, hl, gross, hgross, hrest⟩

/-- The rates can be updated exactly when the gross rates can be calculated, the reserve factor
leaves a share, and all of them fit their words. -/
theorem updateInterestRates_succeeds_iff :
    (∃ r', r.updateInterestRates t market balance added taken = .ok r') ↔
      ∃ gross, r.grossRates t market balance added taken = .ok gross ∧
        r.configuration.getReserveFactor ≤ PERCENTAGE_FACTOR ∧
        depositorsRate gross.liquidityRate r.configuration.getReserveFactor ≤ uint128Max ∧
        gross.stableBorrowRate ≤ uint128Max ∧ gross.variableBorrowRate ≤ uint128Max := by
  simp only [updateInterestRates, bind_eq_ok, require_eq_ok, pure_eq_ok]
  constructor
  · intro h
    obtain ⟨_, rates, hrates, _, hliquidity, _, hstable, _, hvariable, rfl⟩ := h
    obtain ⟨gross, hgross, hle, hshare, hs, hv⟩ := calculateInterestRates_gross.mp hrates
    obtain ⟨_, hshare⟩ := percentMul_eq_ok.mp hshare
    rw [← hshare] at hliquidity
    rw [hs] at hstable
    rw [hv] at hvariable
    exact ⟨gross, hgross, hle, hliquidity, hstable, hvariable⟩
  · intro h
    obtain ⟨gross, hgross, hle, hliquidity, hstable, hvariable⟩ := h
    have rates : r.calculateInterestRates t market balance added taken =
        .ok ⟨depositorsRate gross.liquidityRate r.configuration.getReserveFactor,
          gross.stableBorrowRate, gross.variableBorrowRate⟩ :=
      calculateInterestRates_gross.mpr
        ⟨gross, hgross, hle, percentMul_depositors hliquidity, rfl, rfl⟩
    exact ⟨_, _, rates, (), hliquidity, (), hstable, (), hvariable, rfl⟩

end Reserve

end ElectroLend
