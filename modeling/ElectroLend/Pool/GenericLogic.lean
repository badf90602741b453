import ElectroLend.Pool.State

namespace ElectroLend

open Outcome

def HEALTH_FACTOR_LIQUIDATION_THRESHOLD : Nat := 10 ^ 18

/-- The amount of an asset that is worth its price: the unchecked power `10 ** decimals`. -/
def tokenUnit (decimals : Nat) : Nat := wrap (10 ^ decimals)

def calculateHealthFactorFromBalances
    (totalCollateralInETH totalDebtInETH liquidationThreshold : Nat) : Result Nat :=
  if totalDebtInETH = 0 then .ok uint256Max
  else do
    let weighted ← percentMul totalCollateralInETH liquidationThreshold
    wadDiv weighted totalDebtInETH

/-- What is left to borrow of the share of the collateral that `ltv` allows. -/
def calculateAvailableBorrowsETH (totalCollateralInETH totalDebtInETH ltv : Nat) : Result Nat := do
  let availableBorrowsETH ← percentMul totalCollateralInETH ltv
  if availableBorrowsETH < totalDebtInETH then .ok 0
  else SafeMath.sub availableBorrowsETH totalDebtInETH .safeMathSubtractionOverflow

/-- The running totals of the loop over the reserves; the two averages are still weighted sums. -/
structure AccountTotals where
  totalCollateralInETH : Nat
  totalDebtInETH : Nat
  avgLtv : Nat
  avgLiquidationThreshold : Nat

structure UserAccountData where
  totalCollateralInETH : Nat
  totalDebtInETH : Nat
  avgLtv : Nat
  avgLiquidationThreshold : Nat
  healthFactor : Nat

namespace LendingPool

variable (pool : LendingPool) (blockTimestamp : Nat)

/-- The collateral part of the loop body, for the reserve at position `i` of the list. -/
def addCollateral (user : Address) (userConfig : UserConfigurationMap) (i : Nat)
    (vars : AccountTotals) : Result AccountTotals := do
  let asset := pool.reservesList i
  let reserve := pool.reserves asset
  let params := reserve.configuration.getParams
  let usedAsCollateral ← userConfig.isUsingAsCollateral i
  if params.liquidationThreshold ≠ 0 ∧ usedAsCollateral then do
    let balance ← reserve.elTokenBalanceOf user
    let value ← SafeMath.mul (pool.priceOracle asset) balance
    let liquidityBalanceETH ← SafeMath.div value (tokenUnit params.decimals)
    let totalCollateralInETH ← SafeMath.add vars.totalCollateralInETH liquidityBalanceETH
    let weightedLtv ← SafeMath.mul liquidityBalanceETH params.ltv
    let avgLtv ← SafeMath.add vars.avgLtv weightedLtv
    let weightedThreshold ← SafeMath.mul liquidityBalanceETH params.liquidationThreshold
    let avgLiquidationThreshold ← SafeMath.add vars.avgLiquidationThreshold weightedThreshold
    pure { vars with totalCollateralInETH, avgLtv, avgLiquidationThreshold }
  else .ok vars

/-- The debt part of the loop body. -/
def addDebt (user : Address) (userConfig : UserConfigurationMap) (i : Nat)
    (vars : AccountTotals) : Result AccountTotals := do
  let asset := pool.reservesList i
  let reserve := pool.reserves asset
  let borrowing ← userConfig.isBorrowing i
  if borrowing then do
    let stableBalance ← reserve.stableDebtBalanceOf blockTimestamp user
    let variableBalance ← reserve.variableDebtBalanceOf blockTimestamp user
    let compoundedBorrowBalance ← SafeMath.add stableBalance variableBalance
    let value ← SafeMath.mul (pool.priceOracle asset) compoundedBorrowBalance
    let debtETH ← SafeMath.div value (tokenUnit reserve.configuration.getParams.decimals)
    let totalDebtInETH ← SafeMath.add vars.totalDebtInETH debtETH
    pure { vars with totalDebtInETH }
  else .ok vars

def addReserve (user : Address) (userConfig : UserConfigurationMap) (vars : AccountTotals)
    (i : Nat) : Result AccountTotals := do
  let active ← userConfig.isUsingAsCollateralOrBorrowing i
  if active then do
    let vars ← pool.addCollateral user userConfig i vars
    pool.addDebt blockTimestamp user userConfig i vars
  else .ok vars

def averageOverCollateral (weighted totalCollateralInETH : Nat) : Result Nat :=
  if totalCollateralInETH > 0 then SafeMath.div weighted totalCollateralInETH else .ok 0

def calculateUserAccountData (user : Address) (userConfig : UserConfigurationMap) :
    Result UserAccountData :=
  if userConfig.isEmpty then .ok ⟨0, 0, 0, 0, uint256Max⟩
  else do
    let vars ← (List.range pool.reservesCount).foldlM
      (pool.addReserve blockTimestamp user userConfig) ⟨0, 0, 0, 0⟩
    let avgLtv ← averageOverCollateral vars.avgLtv vars.totalCollateralInETH
    let avgLiquidationThreshold ←
      averageOverCollateral vars.avgLiquidationThreshold vars.totalCollateralInETH
    let healthFactor ← calculateHealthFactorFromBalances vars.totalCollateralInETH
      vars.totalDebtInETH avgLiquidationThreshold
    pure {
      totalCollateralInETH := vars.totalCollateralInETH
      totalDebtInETH := vars.totalDebtInETH
      avgLtv
      avgLiquidationThreshold
      healthFactor }

/-- The health factor that would be left, when none of the early answers applies. -/
def healthFactorAfterDecrease (account : UserAccountData) (price amount decimals
    liquidationThreshold : Nat) : Result Bool := do
  let value ← SafeMath.mul price amount
  let amountToDecreaseInETH ← SafeMath.div value (tokenUnit decimals)
  let collateralBalanceAfterDecrease ← SafeMath.sub account.totalCollateralInETH
    amountToDecreaseInETH .safeMathSubtractionOverflow
  if collateralBalanceAfterDecrease = 0 then .ok false
  else do
    let weighted ← SafeMath.mul account.totalCollateralInETH account.avgLiquidationThreshold
    let removed ← SafeMath.mul amountToDecreaseInETH liquidationThreshold
    let left ← SafeMath.sub weighted removed .safeMathSubtractionOverflow
    let liquidationThresholdAfterDecrease ← SafeMath.div left collateralBalanceAfterDecrease
    let healthFactor ← calculateHealthFactorFromBalances collateralBalanceAfterDecrease
      account.totalDebtInETH liquidationThresholdAfterDecrease
    pure (decide (healthFactor ≥ HEALTH_FACTOR_LIQUIDATION_THRESHOLD))

/-- `balanceDecreaseAllowed` once the asset is known to back a debt. -/
def collateralDecreaseAllowed (asset user : Address) (amount : Nat)
    (userConfig : UserConfigurationMap) : Result Bool :=
  let params := (pool.reserves asset).configuration.getParams
  if params.liquidationThreshold = 0 then .ok true
  else do
    let account ← pool.calculateUserAccountData blockTimestamp user userConfig
    if account.totalDebtInETH = 0 then .ok true
    else
      healthFactorAfterDecrease account (pool.priceOracle asset) amount params.decimals
        params.liquidationThreshold

def balanceDecreaseAllowed (asset user : Address) (amount : Nat)
    (userConfig : UserConfigurationMap) : Result Bool :=
  if !userConfig.isBorrowingAny then .ok true
  else do
    let usedAsCollateral ← userConfig.isUsingAsCollateral (pool.reserves asset).id
    if !usedAsCollateral then .ok true
    else pool.collateralDecreaseAllowed blockTimestamp asset user amount userConfig

end LendingPool

end ElectroLend
