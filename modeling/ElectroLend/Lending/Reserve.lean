import ElectroLend.Configuration.ReserveConfiguration
import ElectroLend.Lending.InterestRateStrategy
import ElectroLend.Tokens.ELToken
import ElectroLend.Tokens.StableDebtToken

namespace ElectroLend

open Outcome

/-- `DataTypes.ReserveData`, with the strategy itself in the place of its address. -/
structure ReserveData where
  configuration : ReserveConfigurationMap
  liquidityIndex : Nat
  variableBorrowIndex : Nat
  currentLiquidityRate : Nat
  currentVariableBorrowRate : Nat
  currentStableBorrowRate : Nat
  lastUpdateTimestamp : Nat
  elTokenAddress : Address
  stableDebtTokenAddress : Address
  variableDebtTokenAddress : Address
  interestRateStrategy : DefaultReserveInterestRateStrategy
  id : Nat

/-- A reserve together with the three tokens deployed for it. -/
structure Reserve extends ReserveData where
  elToken : ELToken
  stableDebtToken : StableDebtToken
  variableDebtToken : VariableDebtToken

/-- The storage of an asset that was never listed: all addresses are 0. -/
def Reserve.unlisted : Reserve where
  configuration := ⟨0⟩
  liquidityIndex := 0
  variableBorrowIndex := 0
  currentLiquidityRate := 0
  currentVariableBorrowRate := 0
  currentStableBorrowRate := 0
  lastUpdateTimestamp := 0
  elTokenAddress := 0
  stableDebtTokenAddress := 0
  variableDebtTokenAddress := 0
  interestRateStrategy := ⟨0, 0, 0, 0, 0, 0, Nat.zero_le _⟩
  id := 0
  elToken := ⟨.empty, fun _ _ => 0, 0⟩
  stableDebtToken := .empty
  variableDebtToken := .empty

/-- A call to the zero address reverts, since no contract is there. -/
def requireContract (address : Address) : Result Unit := require (address ≠ 0) .callToNonContract

namespace Reserve

def getNormalizedIncome (reserve : Reserve) (blockTimestamp : Nat) : Result Nat :=
  let timestamp := reserve.lastUpdateTimestamp
  if timestamp = uint40 blockTimestamp then .ok reserve.liquidityIndex
  else do
    let cumulated ←
      calculateLinearInterest reserve.currentLiquidityRate timestamp blockTimestamp
    rayMul cumulated reserve.liquidityIndex

def getNormalizedDebt (reserve : Reserve) (blockTimestamp : Nat) : Result Nat :=
  let timestamp := reserve.lastUpdateTimestamp
  if timestamp = uint40 blockTimestamp then .ok reserve.variableBorrowIndex
  else do
    let cumulated ←
      calculateCompoundedInterest reserve.currentVariableBorrowRate timestamp blockTimestamp
    rayMul cumulated reserve.variableBorrowIndex

def elTokenBalanceOf (reserve : Reserve) (user : Address) : Result Nat := do
  requireContract reserve.elTokenAddress
  pure (reserve.elToken.toIncentivizedERC20.balanceOf user)

def stableDebtBalanceOf (reserve : Reserve) (blockTimestamp : Nat) (user : Address) :
    Result Nat := do
  requireContract reserve.stableDebtTokenAddress
  reserve.stableDebtToken.balanceOf blockTimestamp user

def variableDebtBalanceOf (reserve : Reserve) (blockTimestamp : Nat) (user : Address) :
    Result Nat := do
  requireContract reserve.variableDebtTokenAddress
  reserve.variableDebtToken.balanceOf (reserve.getNormalizedDebt blockTimestamp) user

/-- `Helpers.getUserCurrentDebt`: the stable and the variable debt. -/
def getUserCurrentDebt (reserve : Reserve) (blockTimestamp : Nat) (user : Address) :
    Result (Nat × Nat) := do
  let stableDebt ← reserve.stableDebtBalanceOf blockTimestamp user
  let variableDebt ← reserve.variableDebtBalanceOf blockTimestamp user
  pure (stableDebt, variableDebt)

def nextLiquidityIndex (reserve : Reserve) (blockTimestamp : Nat) : Result Nat :=
  if reserve.currentLiquidityRate > 0 then do
    let cumulatedLiquidityInterest ← calculateLinearInterest reserve.currentLiquidityRate
      reserve.lastUpdateTimestamp blockTimestamp
    let newLiquidityIndex ← rayMul cumulatedLiquidityInterest reserve.liquidityIndex
    require (newLiquidityIndex ≤ uint128Max) .rlLiquidityIndexOverflow
    pure (uint128 newLiquidityIndex)
  else .ok reserve.liquidityIndex

def nextVariableBorrowIndex (reserve : Reserve) (blockTimestamp : Nat) : Result Nat :=
  if reserve.currentLiquidityRate > 0 ∧ reserve.variableDebtToken.scaledTotalSupply ≠ 0 then do
    let cumulatedVariableBorrowInterest ← calculateCompoundedInterest
      reserve.currentVariableBorrowRate reserve.lastUpdateTimestamp blockTimestamp
    let newVariableBorrowIndex ←
      rayMul cumulatedVariableBorrowInterest reserve.variableBorrowIndex
    require (newVariableBorrowIndex ≤ uint128Max) .rlVariableBorrowIndexOverflow
    pure (uint128 newVariableBorrowIndex)
  else .ok reserve.variableBorrowIndex

/-- The mint of `_updateIndexes`: whenever the index moves, the linear interest factor above one
ray is minted as an amount, at the index before the move. -/
def mintLinearInterest (reserve : Reserve) (blockTimestamp newLiquidityIndex : Nat) :
    Result ELToken :=
  if newLiquidityIndex ≠ reserve.liquidityIndex then do
    let interest ← calculateLinearInterest reserve.currentLiquidityRate
      reserve.lastUpdateTimestamp blockTimestamp
    let amount ← SafeMath.sub interest RAY .safeMathSubtractionOverflow
    reserve.elToken.mintToTreasury amount reserve.liquidityIndex
  else .ok reserve.elToken

def updateIndexes (reserve : Reserve) (blockTimestamp : Nat) : Result Reserve := do
  let liquidityIndex ← reserve.nextLiquidityIndex blockTimestamp
  let elToken ← reserve.mintLinearInterest blockTimestamp liquidityIndex
  let variableBorrowIndex ← reserve.nextVariableBorrowIndex blockTimestamp
  let lastUpdateTimestamp := uint40 blockTimestamp
  pure { reserve with elToken, liquidityIndex, variableBorrowIndex, lastUpdateTimestamp }

/-- `_mintToTreasury`, on the reserve whose indexes are already the new ones. -/
def mintToTreasury (reserve : Reserve) (blockTimestamp previousVariableBorrowIndex
    timestamp : Nat) : Result ELToken :=
  let reserveFactor := reserve.configuration.getReserveFactor
  if reserveFactor = 0 then .ok reserve.elToken
  else do
    let scaledVariableDebt := reserve.variableDebtToken.scaledTotalSupply
    let (principalStableDebt, currentStableDebt, avgStableRate, stableSupplyUpdatedTimestamp) ←
      reserve.stableDebtToken.getSupplyData blockTimestamp
    let previousVariableDebt ← rayMul scaledVariableDebt previousVariableBorrowIndex
    let currentVariableDebt ← rayMul scaledVariableDebt reserve.variableBorrowIndex
    let cumulatedStableInterest ←
      calculateCompoundedInterest avgStableRate stableSupplyUpdatedTimestamp timestamp
    let previousStableDebt ← rayMul principalStableDebt cumulatedStableInterest
    let currentDebt ← SafeMath.add currentVariableDebt currentStableDebt
    let overPreviousVariable ←
      SafeMath.sub currentDebt previousVariableDebt .safeMathSubtractionOverflow
    let totalDebtAccrued ←
      SafeMath.sub overPreviousVariable previousStableDebt .safeMathSubtractionOverflow
    let amountToMint ← percentMul totalDebtAccrued reserveFactor
    if amountToMint ≠ 0 then
      reserve.elToken.mintToTreasury amountToMint reserve.liquidityIndex
    else .ok reserve.elToken

def updateState (reserve : Reserve) (blockTimestamp : Nat) : Result Reserve := do
  requireContract reserve.variableDebtTokenAddress
  let previousVariableBorrowIndex := reserve.variableBorrowIndex
  let lastUpdatedTimestamp := reserve.lastUpdateTimestamp
  let reserve ← reserve.updateIndexes blockTimestamp
  let elToken ←
    reserve.mintToTreasury blockTimestamp previousVariableBorrowIndex lastUpdatedTimestamp
  pure { reserve with elToken }

/-- The strategy's answer for the debts the reserve's tokens report. -/
def calculateInterestRates (reserve : Reserve)
    (blockTimestamp marketBorrowRate balance liquidityAdded liquidityTaken : Nat) :
    Result InterestRates := do
  let (totalStableDebt, avgStableRate) ←
    reserve.stableDebtToken.getTotalSupplyAndAvgRate blockTimestamp
  let totalVariableDebt ←
    rayMul reserve.variableDebtToken.scaledTotalSupply reserve.variableBorrowIndex
  reserve.interestRateStrategy.calculateInterestRates marketBorrowRate balance liquidityAdded
    liquidityTaken totalStableDebt totalVariableDebt avgStableRate
    reserve.configuration.getReserveFactor

def updateInterestRates (reserve : Reserve)
    (blockTimestamp marketBorrowRate balance liquidityAdded liquidityTaken : Nat) :
    Result Reserve := do
  let rates ← reserve.calculateInterestRates blockTimestamp marketBorrowRate balance
    liquidityAdded liquidityTaken
  require (rates.liquidityRate ≤ uint128Max) .rlLiquidityRateOverflow
  require (rates.stableBorrowRate ≤ uint128Max) .rlStableBorrowRateOverflow
  require (rates.variableBorrowRate ≤ uint128Max) .rlVariableBorrowRateOverflow
  pure { reserve with
    currentLiquidityRate := uint128 rates.liquidityRate
    currentStableBorrowRate := uint128 rates.stableBorrowRate
    currentVariableBorrowRate := uint128 rates.variableBorrowRate }

def cumulateToLiquidityIndex (reserve : Reserve) (totalLiquidity amount : Nat) :
    Result Reserve := do
  let amountInRay ← wadToRay amount
  let totalInRay ← wadToRay totalLiquidity
  let amountToLiquidityRatio ← rayDiv amountInRay totalInRay
  let factor ← SafeMath.add amountToLiquidityRatio RAY
  let result ← rayMul factor reserve.liquidityIndex
  require (result ≤ uint128Max) .rlLiquidityIndexOverflow
  pure { reserve with liquidityIndex := uint128 result }

/-- `init`, with the tokens that stand at the three addresses. -/
def init (reserve : Reserve) (elTokenAddress stableDebtAddress variableDebtAddress : Address)
    (elToken : ELToken) (stableDebtToken : StableDebtToken)
    (variableDebtToken : VariableDebtToken)
    (interestRateStrategy : DefaultReserveInterestRateStrategy) : Result Reserve := do
  require (reserve.elTokenAddress = 0) .rlReserveAlreadyInitialized
  pure { reserve with
    liquidityIndex := uint128 RAY
    variableBorrowIndex := uint128 RAY
    elTokenAddress
    stableDebtTokenAddress := stableDebtAddress
    variableDebtTokenAddress := variableDebtAddress
    interestRateStrategy
    elToken
    stableDebtToken
    variableDebtToken }

end Reserve

end ElectroLend
