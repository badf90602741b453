import ElectroLend.Pool.GenericLogic

namespace ElectroLend

open Outcome

namespace LendingPool

def getReservesList (pool : LendingPool) : List Address :=
  (List.range pool.reservesCount).map pool.reservesList

end LendingPool

namespace ElectroProtocolDataProvider

structure ReserveConfigurationData where
  decimals : Nat
  ltv : Nat
  liquidationThreshold : Nat
  liquidationBonus : Nat
  reserveFactor : Nat
  usageAsCollateralEnabled : Bool
  borrowingEnabled : Bool
  stableBorrowRateEnabled : Bool
  isActive : Bool
  isFrozen : Bool

structure ReserveTotals where
  availableLiquidity : Nat
  totalStableDebt : Nat
  totalVariableDebt : Nat
  liquidityRate : Nat
  variableBorrowRate : Nat
  stableBorrowRate : Nat
  averageStableBorrowRate : Nat
  liquidityIndex : Nat
  variableBorrowIndex : Nat
  lastUpdateTimestamp : Nat

structure UserReserveData where
  currentELTokenBalance : Nat
  currentStableDebt : Nat
  currentVariableDebt : Nat
  principalStableDebt : Nat
  scaledVariableDebt : Nat
  stableBorrowRate : Nat
  liquidityRate : Nat
  stableRateLastUpdated : Nat
  usageAsCollateralEnabled : Bool

variable (pool : LendingPool) (blockTimestamp : Nat) (asset : Address)

def getReserveConfigurationData : ReserveConfigurationData :=
  let configuration := (pool.reserves asset).configuration
  let params := configuration.getParamsMemory
  let flags := configuration.getFlagsMemory
  { decimals := params.decimals
    ltv := params.ltv
    liquidationThreshold := params.liquidationThreshold
    liquidationBonus := params.liquidationBonus
    reserveFactor := params.reserveFactor
    usageAsCollateralEnabled := params.liquidationThreshold > 0
    borrowingEnabled := flags.borrowingEnabled
    stableBorrowRateEnabled := flags.stableRateBorrowingEnabled
    isActive := flags.isActive
    isFrozen := flags.isFrozen }

def getReserveData : Result ReserveTotals := do
  let reserve := pool.reserves asset
  requireContract reserve.stableDebtTokenAddress
  let totalStableDebt ← reserve.stableDebtToken.totalSupplyAt blockTimestamp
  requireContract reserve.variableDebtTokenAddress
  let totalVariableDebt ←
    reserve.variableDebtToken.totalDebt (reserve.getNormalizedDebt blockTimestamp)
  pure {
    availableLiquidity := pool.underlyingBalance asset
    totalStableDebt
    totalVariableDebt
    liquidityRate := reserve.currentLiquidityRate
    variableBorrowRate := reserve.currentVariableBorrowRate
    stableBorrowRate := reserve.currentStableBorrowRate
    averageStableBorrowRate := reserve.stableDebtToken.getAverageStableRate
    liquidityIndex := reserve.liquidityIndex
    variableBorrowIndex := reserve.variableBorrowIndex
    lastUpdateTimestamp := reserve.lastUpdateTimestamp }

def getUserReserveData (user : Address) : Result UserReserveData := do
  let reserve := pool.reserves asset
  let currentELTokenBalance ← reserve.elTokenBalanceOf user
  let currentVariableDebt ← reserve.variableDebtBalanceOf blockTimestamp user
  let currentStableDebt ← reserve.stableDebtBalanceOf blockTimestamp user
  let usageAsCollateralEnabled ← (pool.usersConfig user).isUsingAsCollateral reserve.id
  pure {
    currentELTokenBalance
    currentStableDebt
    currentVariableDebt
    principalStableDebt := reserve.stableDebtToken.principalBalanceOf user
    scaledVariableDebt := reserve.variableDebtToken.scaledBalanceOf user
    stableBorrowRate := reserve.stableDebtToken.getUserStableRate user
    liquidityRate := reserve.currentLiquidityRate
    stableRateLastUpdated := reserve.stableDebtToken.timestamps user
    usageAsCollateralEnabled }

end ElectroProtocolDataProvider

namespace UiPoolDataProviderV2

structure AggregatedReserveData where
  underlyingAsset : Address
  decimals : Nat
  baseLTVasCollateral : Nat
  reserveLiquidationThreshold : Nat
  reserveLiquidationBonus : Nat
  reserveFactor : Nat
  usageAsCollateralEnabled : Bool
  borrowingEnabled : Bool
  stableBorrowRateEnabled : Bool
  isActive : Bool
  isFrozen : Bool
  liquidityIndex : Nat
  variableBorrowIndex : Nat
  liquidityRate : Nat
  variableBorrowRate : Nat
  stableBorrowRate : Nat
  lastUpdateTimestamp : Nat
  elTokenAddress : Address
  stableDebtTokenAddress : Address
  variableDebtTokenAddress : Address
  availableLiquidity : Nat
  totalPrincipalStableDebt : Nat
  averageStableRate : Nat
  stableDebtLastUpdateTimestamp : Nat
  totalScaledVariableDebt : Nat
  priceInMarketReferenceCurrency : Nat
  variableRateSlope1 : Nat
  variableRateSlope2 : Nat
  stableRateSlope1 : Nat
  stableRateSlope2 : Nat

structure UserReserveData where
  underlyingAsset : Address
  scaledLTokenBalance : Nat
  usageAsCollateralEnabledOnUser : Bool
  stableBorrowRate : Nat
  scaledVariableDebt : Nat
  principalStableDebt : Nat
  stableBorrowLastUpdateTimestamp : Nat
  deriving DecidableEq

variable (pool : LendingPool) (blockTimestamp : Nat)

/-- The loop body of `getReservesData`. -/
def aggregatedReserveData (asset : Address) : Result AggregatedReserveData := do
  let baseData := pool.reserves asset
  requireContract baseData.stableDebtTokenAddress
  let (totalPrincipalStableDebt, _, averageStableRate, stableDebtLastUpdateTimestamp) ←
    baseData.stableDebtToken.getSupplyData blockTimestamp
  requireContract baseData.variableDebtTokenAddress
  let params := baseData.configuration.getParamsMemory
  let flags := baseData.configuration.getFlagsMemory
  pure {
    underlyingAsset := asset
    decimals := params.decimals
    baseLTVasCollateral := params.ltv
    reserveLiquidationThreshold := params.liquidationThreshold
    reserveLiquidationBonus := params.liquidationBonus
    reserveFactor := params.reserveFactor
    usageAsCollateralEnabled := params.ltv ≠ 0
    borrowingEnabled := flags.borrowingEnabled
    stableBorrowRateEnabled := flags.stableRateBorrowingEnabled
    isActive := flags.isActive
    isFrozen := flags.isFrozen
    liquidityIndex := baseData.liquidityIndex
    variableBorrowIndex := baseData.variableBorrowIndex
    liquidityRate := baseData.currentLiquidityRate
    variableBorrowRate := baseData.currentVariableBorrowRate
    stableBorrowRate := baseData.currentStableBorrowRate
    lastUpdateTimestamp := baseData.lastUpdateTimestamp
    elTokenAddress := baseData.elTokenAddress
    stableDebtTokenAddress := baseData.stableDebtTokenAddress
    variableDebtTokenAddress := baseData.variableDebtTokenAddress
    availableLiquidity := pool.underlyingBalance asset
    totalPrincipalStableDebt
    averageStableRate
    stableDebtLastUpdateTimestamp
    totalScaledVariableDebt := baseData.variableDebtToken.scaledTotalSupply
    priceInMarketReferenceCurrency := pool.priceOracle asset
    variableRateSlope1 := baseData.interestRateStrategy.variableRateSlope1
    variableRateSlope2 := baseData.interestRateStrategy.variableRateSlope2
    stableRateSlope1 := baseData.interestRateStrategy.stableRateSlope1
    stableRateSlope2 := baseData.interestRateStrategy.stableRateSlope2 }

/-- The rows of `getReservesData`, without the base currency. -/
def getReservesData : Result (List AggregatedReserveData) :=
  pool.getReservesList.mapM (aggregatedReserveData pool blockTimestamp)

/-- The debt of the user in the reserve, read only when his bit says that there is one. -/
def userDebtData (user asset : Address) (row : UserReserveData) : Result UserReserveData := do
  let baseData := pool.reserves asset
  requireContract baseData.variableDebtTokenAddress
  let scaledVariableDebt := baseData.variableDebtToken.scaledBalanceOf user
  requireContract baseData.stableDebtTokenAddress
  let principalStableDebt := baseData.stableDebtToken.principalBalanceOf user
  let row := { row with scaledVariableDebt, principalStableDebt }
  if principalStableDebt ≠ 0 then
    pure { row with
      stableBorrowRate := baseData.stableDebtToken.getUserStableRate user
      stableBorrowLastUpdateTimestamp := baseData.stableDebtToken.timestamps user }
  else .ok row

/-- The loop body of `getUserReservesData`, on an array of the given length. -/
def userReserveData (user : Address) (length i : Nat) : Result UserReserveData := do
  let userConfig := pool.usersConfig user
  let asset := pool.reservesList i
  require (i < length) .indexOutOfBounds
  let scaledLTokenBalance ← (pool.reserves asset).elTokenBalanceOf user
  let usageAsCollateralEnabledOnUser ← userConfig.isUsingAsCollateral i
  let borrowing ← userConfig.isBorrowing i
  let row := {
    underlyingAsset := asset
    scaledLTokenBalance
    usageAsCollateralEnabledOnUser
    stableBorrowRate := 0
    scaledVariableDebt := 0
    principalStableDebt := 0
    stableBorrowLastUpdateTimestamp := 0 }
  if borrowing then userDebtData pool user asset row else .ok row

/-- For the zero address the array has no room for the reserves that the loop visits. -/
def getUserReservesData (user : Address) : Result (List UserReserveData) :=
  let length := if user ≠ 0 then pool.reservesCount else 0
  (List.range pool.reservesCount).mapM (userReserveData pool user length)

end UiPoolDataProviderV2

end ElectroLend
