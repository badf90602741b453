import ElectroLend.Lending.Accrual

namespace ElectroLend

open Outcome

/-- What the rates of a reserve are calculated from, apart from its liquidity and the market's
rate, together with the rates stored last and the account that holds the liquidity. -/
structure RateInputs where
  interestRateStrategy : DefaultReserveInterestRateStrategy
  reserveFactor : Nat
  stableSupply : Nat
  avgStableRate : Nat
  stableSupplyTimestamp : Nat
  scaledVariableDebt : Nat
  variableBorrowIndex : Nat
  stored : InterestRates
  elTokenAddress : Address

namespace Reserve

variable {r r' : Reserve} {t market balance added taken : Nat}

def storedRates (r : Reserve) : InterestRates :=
  ⟨r.currentLiquidityRate, r.currentStableBorrowRate, r.currentVariableBorrowRate⟩

def rateInputs (r : Reserve) : RateInputs where
  interestRateStrategy := r.interestRateStrategy
  reserveFactor := r.configuration.getReserveFactor
  stableSupply := r.stableDebtToken.totalSupply
  avgStableRate := r.stableDebtToken.avgStableRate
  stableSupplyTimestamp := r.stableDebtToken.totalSupplyTimestamp
  scaledVariableDebt := r.variableDebtToken.totalSupply
  variableBorrowIndex := r.variableBorrowIndex
  stored := r.storedRates
  elTokenAddress := r.elTokenAddress

theorem calculateInterestRates_congr (h : r'.rateInputs = r.rateInputs) :
    r'.calculateInterestRates t market balance added taken =
      r.calculateInterestRates t market balance added taken := by
  simp only [rateInputs, RateInputs.mk.injEq] at h
  obtain ⟨hstrategy, hfactor, hsupply, havg, htime, hdebt, hindex, _⟩ := h
  simp only [calculateInterestRates, StableDebtToken.getTotalSupplyAndAvgRate,
    StableDebtToken.calcTotalSupply, VariableDebtToken.scaledTotalSupply, hstrategy, hfactor,
    hsupply, havg, htime, hdebt, hindex]

theorem elTokenAddress_of_rateInputs (h : r'.rateInputs = r.rateInputs) :
    r'.elTokenAddress = r.elTokenAddress :=
  congrArg RateInputs.elTokenAddress h

theorem storedRates_of_rateInputs (h : r'.rateInputs = r.rateInputs) :
    r'.storedRates = r.storedRates :=
  congrArg RateInputs.stored h

/-- The stored rates are those the strategy gives for this liquidity. -/
def RatesAt (r : Reserve) (t market liquidity : Nat) : Prop :=
  r.calculateInterestRates t market liquidity 0 0 = .ok r.storedRates

theorem RatesAt.congr (h : r'.rateInputs = r.rateInputs) {liquidity : Nat}
    (hr : r.RatesAt t market liquidity) : r'.RatesAt t market liquidity := by
  rw [RatesAt, calculateInterestRates_congr h, storedRates_of_rateInputs h]
  exact hr

theorem calculateInterestRates_predicted {rates : InterestRates}
    (h : r.calculateInterestRates t market balance added taken = .ok rates) :
    taken ≤ balance + added ∧
      r.calculateInterestRates t market (balance + added - taken) 0 0 = .ok rates := by
  simp only [calculateInterestRates, DefaultReserveInterestRateStrategy.calculateInterestRates,
    bind_eq_ok, SafeMath.add_eq_ok, SafeMath.sub_eq_ok, Prod.exists] at h ⊢
  obtain ⟨supply, avg, hsupply, debt, hdebt, _, ⟨hmax, rfl⟩, _, ⟨hle, rfl⟩, h⟩ := h
  exact ⟨hle, supply, avg, hsupply, debt, hdebt, _, ⟨by omega, rfl⟩, _, ⟨Nat.zero_le _, rfl⟩, h⟩

/-- Right after an update the rates are those of the predicted liquidity. -/
theorem updateInterestRates_ratesAt
    (h : r.updateInterestRates t market balance added taken = .ok r') :
    taken ≤ balance + added ∧ r'.RatesAt t market (balance + added - taken) ∧
      r'.elTokenAddress = r.elTokenAddress := by
  obtain ⟨rates, hr, rfl⟩ := updateInterestRates_eq_ok h
  obtain ⟨hle, hp⟩ := calculateInterestRates_predicted hr
  exact ⟨hle, hp, rfl⟩

end Reserve

end ElectroLend
