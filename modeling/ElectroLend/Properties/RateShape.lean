import ElectroLend.Lending.BorrowRates
import ElectroLend.Pool.Scripts

namespace ElectroLend

open Outcome

namespace DefaultReserveInterestRateStrategy

variable {strategy : DefaultReserveInterestRateStrategy}
  {market utilization stableRate variableRate : Nat}

theorem borrowRates_beyond (hu : utilization ≤ RAY)
    (hlt : strategy.OPTIMAL_UTILIZATION_RATE < utilization)
    (h : strategy.borrowRates market utilization = .ok (stableRate, variableRate)) :
    strategy.baseVariableBorrowRate + strategy.variableRateSlope1 ≤ variableRate ∧
      variableRate ≤ strategy.baseVariableBorrowRate + strategy.variableRateSlope1 +
        strategy.variableRateSlope2 ∧
      market + strategy.stableRateSlope1 ≤ stableRate ∧
      stableRate ≤ market + strategy.stableRateSlope1 + strategy.stableRateSlope2 := by
  obtain ⟨_, hstable, hvariable⟩ := borrowRates_eq_ok h
  have stableBounds := KinkedCurve.beyond_bounds hlt hu strategy.stableRateSlope1
    strategy.stableRateSlope2
  have variableBounds := KinkedCurve.beyond_bounds hlt hu strategy.variableRateSlope1
    strategy.variableRateSlope2
  rw [stableCurve, KinkedCurve.divideFirst, if_pos hlt] at hstable
  rw [variableCurve, KinkedCurve.multiplyFirst, if_pos hlt] at hvariable
  omega

/-- Up to the optimal utilization the rates start at their bases; the variable rate may exceed its
first slope by the rounding that the division magnifies. -/
theorem borrowRates_within (hle : utilization ≤ strategy.OPTIMAL_UTILIZATION_RATE)
    (h : strategy.borrowRates market utilization = .ok (stableRate, variableRate)) :
    strategy.baseVariableBorrowRate ≤ variableRate ∧
      2 * (strategy.OPTIMAL_UTILIZATION_RATE : Int) *
          (variableRate - strategy.baseVariableBorrowRate - strategy.variableRateSlope1) ≤
        RAY + 2 * strategy.OPTIMAL_UTILIZATION_RATE ∧
      market ≤ stableRate ∧ stableRate ≤ market + strategy.stableRateSlope1 := by
  obtain ⟨hpos, hstable, hvariable⟩ := borrowRates_eq_ok h
  have below : strategy.stableCurve utilization ≤ strategy.stableRateSlope1 :=
    KinkedCurve.divideFirst_le RAY_pos (hpos hle) hle
  have bound : 2 * strategy.OPTIMAL_UTILIZATION_RATE * strategy.variableCurve utilization ≤
      2 * strategy.OPTIMAL_UTILIZATION_RATE * strategy.variableRateSlope1 + RAY +
        strategy.OPTIMAL_UTILIZATION_RATE :=
    KinkedCurve.multiplyFirst_le RAY_pos (hpos hle) hle
  have excess : (variableRate : Int) - strategy.baseVariableBorrowRate -
      strategy.variableRateSlope1 =
        strategy.variableCurve utilization - strategy.variableRateSlope1 := by
    omega
  refine ⟨by omega, ?_, by omega, by omega⟩
  rw [excess, mul_sub]
  have bound : (2 * strategy.OPTIMAL_UTILIZATION_RATE * strategy.variableCurve utilization : Int) ≤
      2 * strategy.OPTIMAL_UTILIZATION_RATE * strategy.variableRateSlope1 + RAY +
        strategy.OPTIMAL_UTILIZATION_RATE := by
    exact_mod_cast bound
  linarith

/-- A higher utilization never lowers the stable rate, and the variable rate only by the step at
the kink. -/
theorem borrowRates_mono {utilization' stableRate' variableRate' : Nat}
    (hle : utilization ≤ utilization')
    (h : strategy.borrowRates market utilization = .ok (stableRate, variableRate))
    (h' : strategy.borrowRates market utilization' = .ok (stableRate', variableRate')) :
    stableRate ≤ stableRate' ∧ (0 < strategy.OPTIMAL_UTILIZATION_RATE →
      variableRate ≤ variableRate' + (RAY / (2 * strategy.OPTIMAL_UTILIZATION_RATE) + 1)) := by
  obtain ⟨hpos, rfl, rfl⟩ := borrowRates_eq_ok h
  obtain ⟨_, rfl, rfl⟩ := borrowRates_eq_ok h'
  constructor
  · exact Nat.add_le_add_left (KinkedCurve.divideFirst_mono RAY_pos hle hpos) market
  · intro ho
    rw [Nat.add_assoc]
    exact Nat.add_le_add_left (KinkedCurve.multiplyFirst_mono RAY_pos ho hle) _

end DefaultReserveInterestRateStrategy

open DefaultReserveInterestRateStrategy

/-- The borrow rates that a strategy calculates from the liquidity and the debts: within the bounds
of the segment that the utilization is on, and monotone in it up to the step at the kink. -/
theorem rate_curve_shape (strategy : DefaultReserveInterestRateStrategy) (market : Nat) :
    (∀ liquidity stableDebt variableDebt avg factor rates,
      strategy.ratesAtLiquidity market liquidity stableDebt variableDebt avg factor = .ok rates →
      ∃ utilization, utilizationRate (stableDebt + variableDebt) liquidity = .ok utilization ∧
        utilization ≤ RAY ∧
        (strategy.OPTIMAL_UTILIZATION_RATE < utilization →
          strategy.baseVariableBorrowRate + strategy.variableRateSlope1 ≤
              rates.variableBorrowRate ∧
            rates.variableBorrowRate ≤ strategy.baseVariableBorrowRate +
              strategy.variableRateSlope1 + strategy.variableRateSlope2 ∧
            market + strategy.stableRateSlope1 ≤ rates.stableBorrowRate ∧
            rates.stableBorrowRate ≤
              market + strategy.stableRateSlope1 + strategy.stableRateSlope2) ∧
        (utilization ≤ strategy.OPTIMAL_UTILIZATION_RATE →
          strategy.baseVariableBorrowRate ≤ rates.variableBorrowRate ∧
            2 * (strategy.OPTIMAL_UTILIZATION_RATE : Int) * (rates.variableBorrowRate -
                strategy.baseVariableBorrowRate - strategy.variableRateSlope1) ≤
              RAY + 2 * strategy.OPTIMAL_UTILIZATION_RATE ∧
            market ≤ rates.stableBorrowRate ∧
            rates.stableBorrowRate ≤ market + strategy.stableRateSlope1)) ∧
    ∀ liquidity₁ stable₁ variable₁ avg₁ factor₁ rates₁ utilization₁
      liquidity₂ stable₂ variable₂ avg₂ factor₂ rates₂ utilization₂,
      strategy.ratesAtLiquidity market liquidity₁ stable₁ variable₁ avg₁ factor₁ = .ok rates₁ →
      strategy.ratesAtLiquidity market liquidity₂ stable₂ variable₂ avg₂ factor₂ = .ok rates₂ →
      utilizationRate (stable₁ + variable₁) liquidity₁ = .ok utilization₁ →
      utilizationRate (stable₂ + variable₂) liquidity₂ = .ok utilization₂ →
      utilization₁ ≤ utilization₂ →
      rates₁.stableBorrowRate ≤ rates₂.stableBorrowRate ∧
        (0 < strategy.OPTIMAL_UTILIZATION_RATE → rates₁.variableBorrowRate ≤
          rates₂.variableBorrowRate + (RAY / (2 * strategy.OPTIMAL_UTILIZATION_RATE) + 1)) := by
  constructor
  · intro _ _ _ _ _ _ h
    obtain ⟨utilization, _, _, hutilization, hrates, _⟩ := ratesAtLiquidity_steps h
    have hle := utilization_le_ray hutilization
    exact ⟨utilization, hutilization, hle, fun hlt => borrowRates_beyond hle hlt hrates,
      fun hwithin => borrowRates_within hwithin hrates⟩
  · intro _ _ _ _ _ _ _ _ _ _ _ _ _ _ h₁ h₂ hu₁ hu₂ hle
    obtain ⟨_, _, _, hutilization₁, hrates₁, _⟩ := ratesAtLiquidity_steps h₁
    obtain ⟨_, _, _, hutilization₂, hrates₂, _⟩ := ratesAtLiquidity_steps h₂
    cases ok_unique hutilization₁ hu₁
    cases ok_unique hutilization₂ hu₂
    exact borrowRates_mono hle hrates₁ hrates₂

/-- The rates of a market with nothing borrowed and of one with nine tenths borrowed. -/
theorem market_rates_rise : ∃ rates₁ rates₂,
    Market.strategy.ratesAtLiquidity (3 * 10 ^ 25) (10 ^ 20) 0 0 0 1000 = .ok rates₁ ∧
      Market.strategy.ratesAtLiquidity (3 * 10 ^ 25) (10 ^ 19) 0 (9 * 10 ^ 19) 0 1000 =
        .ok rates₂ ∧
      rates₁.stableBorrowRate ≤ 5 * 10 ^ 25 ∧ 5 * 10 ^ 25 ≤ rates₂.stableBorrowRate := by
  obtain ⟨shape, _⟩ := rate_curve_shape Market.strategy (3 * 10 ^ 25)
  obtain ⟨rates₁, h₁⟩ := exists_of_isOk
    (x := Market.strategy.ratesAtLiquidity (3 * 10 ^ 25) (10 ^ 20) 0 0 0 1000) (by decide +kernel)
  obtain ⟨rates₂, h₂⟩ := exists_of_isOk
    (x := Market.strategy.ratesAtLiquidity (3 * 10 ^ 25) (10 ^ 19) 0 (9 * 10 ^ 19) 0 1000)
    (by decide +kernel)
  obtain ⟨u₁, hu₁, _, _, within⟩ := shape _ _ _ _ _ _ h₁
  obtain ⟨u₂, hu₂, _, beyond, _⟩ := shape _ _ _ _ _ _ h₂
  have none_lent : u₁ = 0 := ok_unique hu₁ (by decide +kernel)
  have most_lent : u₂ = 9 * 10 ^ 26 := ok_unique hu₂ (by decide +kernel)
  have low := (within (by rw [none_lent]; exact Nat.zero_le _)).2.2.2
  have high := (beyond (by rw [most_lent]; decide)).2.2.1
  exact ⟨rates₁, rates₂, h₁, h₂, low, high⟩

end ElectroLend
