import ElectroLend.Math.MathUtils

namespace ElectroLend

open Outcome

/-- The bound on the optimal rate is the constructor's checked subtraction from one ray. -/
structure DefaultReserveInterestRateStrategy where
  OPTIMAL_UTILIZATION_RATE : Nat
  baseVariableBorrowRate : Nat
  variableRateSlope1 : Nat
  variableRateSlope2 : Nat
  stableRateSlope1 : Nat
  stableRateSlope2 : Nat
  optimal_le_ray : OPTIMAL_UTILIZATION_RATE ≤ RAY

structure InterestRates where
  liquidityRate : Nat
  stableBorrowRate : Nat
  variableBorrowRate : Nat
  deriving DecidableEq, Repr

namespace DefaultReserveInterestRateStrategy

def EXCESS_UTILIZATION_RATE (strategy : DefaultReserveInterestRateStrategy) : Nat :=
  RAY - strategy.OPTIMAL_UTILIZATION_RATE

def getMaxVariableBorrowRate (strategy : DefaultReserveInterestRateStrategy) : Result Nat := do
  let firstSlope ← SafeMath.add strategy.baseVariableBorrowRate strategy.variableRateSlope1
  SafeMath.add firstSlope strategy.variableRateSlope2

/-- The weighted average of the variable and the stable rate. -/
def getOverallBorrowRate (totalStableDebt totalVariableDebt currentVariableBorrowRate
    currentAverageStableBorrowRate : Nat) : Result Nat := do
  let totalDebt ← SafeMath.add totalStableDebt totalVariableDebt
  if totalDebt = 0 then .ok 0
  else do
    let variableInRay ← wadToRay totalVariableDebt
    let weightedVariableRate ← rayMul variableInRay currentVariableBorrowRate
    let stableInRay ← wadToRay totalStableDebt
    let weightedStableRate ← rayMul stableInRay currentAverageStableBorrowRate
    let weighted ← SafeMath.add weightedVariableRate weightedStableRate
    let totalInRay ← wadToRay totalDebt
    rayDiv weighted totalInRay

def utilizationRate (totalDebt availableLiquidity : Nat) : Result Nat :=
  if totalDebt = 0 then .ok 0
  else do
    let total ← SafeMath.add availableLiquidity totalDebt
    rayDiv totalDebt total

/-- The stable and the variable borrow rate at a utilization, from the market's borrow rate. -/
def borrowRates (strategy : DefaultReserveInterestRateStrategy)
    (marketBorrowRate utilizationRate : Nat) : Result (Nat × Nat) :=
  if utilizationRate > strategy.OPTIMAL_UTILIZATION_RATE then do
    let excess ← SafeMath.sub utilizationRate strategy.OPTIMAL_UTILIZATION_RATE
      .safeMathSubtractionOverflow
    let excessUtilizationRateRatio ← rayDiv excess strategy.EXCESS_UTILIZATION_RATE
    let stableBase ← SafeMath.add marketBorrowRate strategy.stableRateSlope1
    let stableExcess ← rayMul strategy.stableRateSlope2 excessUtilizationRateRatio
    let stableRate ← SafeMath.add stableBase stableExcess
    let variableBase ←
      SafeMath.add strategy.baseVariableBorrowRate strategy.variableRateSlope1
    let variableExcess ← rayMul strategy.variableRateSlope2 excessUtilizationRateRatio
    let variableRate ← SafeMath.add variableBase variableExcess
    pure (stableRate, variableRate)
  else do
    let ratio ← rayDiv utilizationRate strategy.OPTIMAL_UTILIZATION_RATE
    let stableShare ← rayMul strategy.stableRateSlope1 ratio
    let stableRate ← SafeMath.add marketBorrowRate stableShare
    let variableProduct ← rayMul utilizationRate strategy.variableRateSlope1
    let variableShare ← rayDiv variableProduct strategy.OPTIMAL_UTILIZATION_RATE
    let variableRate ← SafeMath.add strategy.baseVariableBorrowRate variableShare
    pure (stableRate, variableRate)

/-- The overload on an available liquidity. `marketBorrowRate` is the lending rate oracle's
answer for the reserve. -/
def ratesAtLiquidity (strategy : DefaultReserveInterestRateStrategy)
    (marketBorrowRate availableLiquidity totalStableDebt totalVariableDebt averageStableBorrowRate
      reserveFactor : Nat) : Result InterestRates := do
  let totalDebt ← SafeMath.add totalStableDebt totalVariableDebt
  let utilization ← utilizationRate totalDebt availableLiquidity
  let (stableBorrowRate, variableBorrowRate) ← strategy.borrowRates marketBorrowRate utilization
  let overall ← getOverallBorrowRate totalStableDebt totalVariableDebt variableBorrowRate
    averageStableBorrowRate
  let grossLiquidityRate ← rayMul overall utilization
  let depositorsShare ←
    SafeMath.sub PERCENTAGE_FACTOR reserveFactor .safeMathSubtractionOverflow
  let liquidityRate ← percentMul grossLiquidityRate depositorsShare
  pure { liquidityRate, stableBorrowRate, variableBorrowRate }

/-- The overload the pool calls: `balance` is the underlying balance of the elToken, read before
the operation moves any token. -/
def calculateInterestRates (strategy : DefaultReserveInterestRateStrategy)
    (marketBorrowRate balance liquidityAdded liquidityTaken totalStableDebt totalVariableDebt
      averageStableBorrowRate reserveFactor : Nat) : Result InterestRates := do
  let withAdded ← SafeMath.add balance liquidityAdded
  let availableLiquidity ← SafeMath.sub withAdded liquidityTaken .safeMathSubtractionOverflow
  strategy.ratesAtLiquidity marketBorrowRate availableLiquidity totalStableDebt totalVariableDebt
    averageStableBorrowRate reserveFactor

variable {strategy : DefaultReserveInterestRateStrategy} {market : Nat}

theorem calculateInterestRates_eq_ok {balance added taken stable debt avg factor : Nat}
    {rates : InterestRates}
    (h : strategy.calculateInterestRates market balance added taken stable debt avg factor =
      .ok rates) :
    taken ≤ balance + added ∧
      strategy.ratesAtLiquidity market (balance + added - taken) stable debt avg factor =
        .ok rates := by
  simp only [calculateInterestRates, bind_eq_ok, SafeMath.add_eq_ok, SafeMath.sub_eq_ok] at h
  obtain ⟨_, ⟨_, rfl⟩, _, ⟨hle, rfl⟩, h⟩ := h
  exact ⟨hle, h⟩

end DefaultReserveInterestRateStrategy

end ElectroLend
