import ElectroLend.Pool.LendingPool

namespace ElectroLend

open Outcome

def LIQUIDATION_CLOSE_FACTOR_PERCENT : Nat := 5000

namespace LendingPool

variable (pool : LendingPool) (blockTimestamp : Nat)

/-- The collateral to liquidate and the debt it is worth, when the user's collateral does not
cover the whole debt to cover. -/
def debtNeededForCollateral (collateralAsset debtAsset : Address)
    (userCollateralBalance : Nat) : Result (Nat × Nat) := do
  let params := (pool.reserves collateralAsset).configuration.getParams
  let debtAssetDecimals := (pool.reserves debtAsset).configuration.getDecimals
  let value ← SafeMath.mul (pool.priceOracle collateralAsset) userCollateralBalance
  let scaled ← SafeMath.mul value (tokenUnit debtAssetDecimals)
  let unit ← SafeMath.mul (pool.priceOracle debtAsset) (tokenUnit params.decimals)
  let quotient ← SafeMath.div scaled unit
  let debtAmountNeeded ← percentDiv quotient params.liquidationBonus
  pure (userCollateralBalance, debtAmountNeeded)

def calculateAvailableCollateralToLiquidate (collateralAsset debtAsset : Address)
    (debtToCover userCollateralBalance : Nat) : Result (Nat × Nat) := do
  let params := (pool.reserves collateralAsset).configuration.getParams
  let debtAssetDecimals := (pool.reserves debtAsset).configuration.getDecimals
  let value ← SafeMath.mul (pool.priceOracle debtAsset) debtToCover
  let scaled ← SafeMath.mul value (tokenUnit params.decimals)
  let withBonus ← percentMul scaled params.liquidationBonus
  let unit ← SafeMath.mul (pool.priceOracle collateralAsset) (tokenUnit debtAssetDecimals)
  let maxAmountCollateralToLiquidate ← SafeMath.div withBonus unit
  if maxAmountCollateralToLiquidate > userCollateralBalance then
    pool.debtNeededForCollateral collateralAsset debtAsset userCollateralBalance
  else .ok (maxAmountCollateralToLiquidate, debtToCover)

/-- Burns variable debt first, and stable debt for what it does not cover. -/
def burnLiquidatedDebt (debtAsset user : Address)
    (userVariableDebt actualDebtToLiquidate : Nat) : Result LendingPool :=
  if userVariableDebt ≥ actualDebtToLiquidate then
    pool.burnVariableDebt debtAsset user actualDebtToLiquidate
  else do
    let pool ← (if userVariableDebt > 0 then
        pool.burnVariableDebt debtAsset user userVariableDebt
      else .ok pool)
    let stableAmount ←
      SafeMath.sub actualDebtToLiquidate userVariableDebt .safeMathSubtractionOverflow
    pool.burnStableDebt blockTimestamp debtAsset user stableAmount

/-- The liquidator takes over elTokens, without the checks of a transfer. -/
def seizeELToken (msgSender collateralAsset user : Address) (amount : Nat) :
    Result LendingPool := do
  let liquidatorPreviousELTokenBalance :=
    (pool.reserves collateralAsset).elToken.toIncentivizedERC20.balanceOf msgSender
  let pool ← pool.transferELToken blockTimestamp collateralAsset user msgSender amount false
  if liquidatorPreviousELTokenBalance = 0 then
    pool.setUsingAsCollateral msgSender (pool.reserves collateralAsset).id true
  else .ok pool

/-- The liquidator takes the underlying of burned elTokens. -/
def seizeUnderlying (msgSender collateralAsset user : Address) (amount : Nat) :
    Result LendingPool := do
  let elToken := (pool.reserves collateralAsset).elTokenAddress
  let pool ← pool.updateState blockTimestamp collateralAsset
  let pool ← pool.updateInterestRates blockTimestamp collateralAsset elToken 0 amount
  pool.burnELToken collateralAsset user msgSender amount

def seizeCollateral (msgSender collateralAsset user : Address) (amount : Nat)
    (receiveLToken : Bool) : Result LendingPool :=
  if receiveLToken then pool.seizeELToken blockTimestamp msgSender collateralAsset user amount
  else pool.seizeUnderlying blockTimestamp msgSender collateralAsset user amount

/-- The amount of debt to cover, cut by the close factor. -/
def debtToLiquidate (debtToCover maxLiquidatableDebt : Nat) : Nat :=
  if debtToCover > maxLiquidatableDebt then maxLiquidatableDebt else debtToCover

/-- `liquidationCall` of the collateral manager. -/
def liquidatePosition (msgSender collateralAsset debtAsset user : Address) (debtToCover : Nat)
    (receiveLToken : Bool) : Result LendingPool := do
  let account ← pool.calculateUserAccountData blockTimestamp user (pool.usersConfig user)
  let (userStableDebt, userVariableDebt) ←
    (pool.reserves debtAsset).getUserCurrentDebt blockTimestamp user
  pool.validateLiquidationCall collateralAsset debtAsset user account.healthFactor userStableDebt
    userVariableDebt
  let debtELToken := (pool.reserves debtAsset).elTokenAddress
  let userCollateralBalance ← (pool.reserves collateralAsset).elTokenBalanceOf user
  let totalDebt ← SafeMath.add userStableDebt userVariableDebt
  let maxLiquidatableDebt ← percentMul totalDebt LIQUIDATION_CLOSE_FACTOR_PERCENT
  let wanted := debtToLiquidate debtToCover maxLiquidatableDebt
  let (maxCollateralToLiquidate, debtAmountNeeded) ←
    pool.calculateAvailableCollateralToLiquidate collateralAsset debtAsset wanted
      userCollateralBalance
  let actualDebtToLiquidate := min wanted debtAmountNeeded
  require (receiveLToken ∨ maxCollateralToLiquidate ≤ pool.underlyingBalance collateralAsset)
    .lpcmNotEnoughLiquidityToLiquidate
  let pool ← pool.updateState blockTimestamp debtAsset
  let pool ← pool.burnLiquidatedDebt blockTimestamp debtAsset user userVariableDebt
    actualDebtToLiquidate
  let pool ←
    pool.updateInterestRates blockTimestamp debtAsset debtELToken actualDebtToLiquidate 0
  let pool ← pool.seizeCollateral blockTimestamp msgSender collateralAsset user
    maxCollateralToLiquidate receiveLToken
  let pool ← (if maxCollateralToLiquidate = userCollateralBalance then
      pool.setUsingAsCollateral user (pool.reserves collateralAsset).id false
    else .ok pool)
  pool.pullUnderlying debtAsset msgSender debtELToken actualDebtToLiquidate

/-- The pool passes on the errors that the manager returns as a code, and reports a revert of the
delegated call as its own. -/
def liquidationError (error : Errors) : Errors :=
  match error with
  | .vlNoActiveReserve | .lpcmHealthFactorNotBelowThreshold | .lpcmCollateralCannotBeLiquidated
  | .lpcmSpecifiedCurrencyNotBorrowedByUser | .lpcmNotEnoughLiquidityToLiquidate => error
  | _ => .lpLiquidationCallFailed

def liquidationCall (msgSender collateralAsset debtAsset user : Address) (debtToCover : Nat)
    (receiveLToken : Bool) : Result LendingPool := do
  pool.whenNotPaused
  (pool.liquidatePosition blockTimestamp msgSender collateralAsset debtAsset user debtToCover
    receiveLToken).mapError liquidationError

end LendingPool

end ElectroLend
