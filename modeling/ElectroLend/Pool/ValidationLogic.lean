import ElectroLend.Pool.GenericLogic

namespace ElectroLend

open Outcome

inductive InterestRateMode
  | none
  | stable
  | variable
  deriving DecidableEq, Repr

/-- The conversion `DataTypes.InterestRateMode(mode)`. -/
def InterestRateMode.fromNat (mode : Nat) : Result InterestRateMode :=
  match mode with
  | 0 => .ok .none
  | 1 => .ok .stable
  | 2 => .ok .variable
  | _ => .error .invalidEnumValue

theorem InterestRateMode.fromNat_stable {mode : Nat} : fromNat mode = .ok .stable ↔ mode = 1 := by
  unfold fromNat
  split <;> simp_all

def REBALANCE_UP_LIQUIDITY_RATE_THRESHOLD : Nat := 4000
def REBALANCE_UP_USAGE_RATIO_THRESHOLD : Nat := 95 * 10 ^ 25

def validateDeposit (reserve : Reserve) (amount : Nat) : Result Unit := do
  let flags := reserve.configuration.getFlags
  require (amount ≠ 0) .vlInvalidAmount
  require flags.isActive .vlNoActiveReserve
  require (!flags.isFrozen) .vlReserveFrozen

def validateRepay (msgSender : Address) (reserve : Reserve) (amountSent : Nat)
    (rateMode : InterestRateMode) (onBehalfOf : Address) (stableDebt variableDebt : Nat) :
    Result Unit := do
  require reserve.configuration.getActive .vlNoActiveReserve
  require (amountSent > 0) .vlInvalidAmount
  require (stableDebt > 0 ∧ rateMode = .stable ∨ variableDebt > 0 ∧ rateMode = .variable)
    .vlNoDebtOfSelectedType
  require (amountSent ≠ uint256Max ∨ msgSender = onBehalfOf) .vlNoExplicitAmountToRepayOnBehalf

/-- Whether the user may hold stable debt in the currency of his collateral: only when the debt
is larger than the collateral. -/
def validateStableAgainstCollateral (reserve : Reserve) (user : Address)
    (userConfig : UserConfigurationMap) (debt : Result Nat) : Result Unit := do
  let usedAsCollateral ← userConfig.isUsingAsCollateral reserve.id
  if usedAsCollateral ∧ reserve.configuration.getLtv ≠ 0 then do
    let debt ← debt
    let collateral ← reserve.elTokenBalanceOf user
    require (debt > collateral) .vlCollateralSameAsBorrowingCurrency
  else .ok ()

def validateSwapRateMode (msgSender : Address) (reserve : Reserve)
    (userConfig : UserConfigurationMap) (stableDebt variableDebt : Nat)
    (currentRateMode : InterestRateMode) : Result Unit := do
  let flags := reserve.configuration.getFlags
  require flags.isActive .vlNoActiveReserve
  require (!flags.isFrozen) .vlReserveFrozen
  match currentRateMode with
  | .stable => require (stableDebt > 0) .vlNoStableRateLoanInReserve
  | .variable => do
    require (variableDebt > 0) .vlNoVariableRateLoanInReserve
    require flags.stableRateBorrowingEnabled .vlStableBorrowingNotEnabled
    validateStableAgainstCollateral reserve msgSender userConfig
      (SafeMath.add stableDebt variableDebt)
  | .none => .error .vlInvalidInterestRateModeSelected

/-- `balance` is the underlying balance of the elToken. -/
def validateRebalanceStableBorrowRate (reserve : Reserve) (blockTimestamp balance : Nat) :
    Result Unit := do
  require reserve.configuration.getFlags.isActive .vlNoActiveReserve
  let totalStableDebt ← reserve.stableDebtToken.totalSupplyAt blockTimestamp
  let totalVariableDebt ←
    reserve.variableDebtToken.totalDebt (reserve.getNormalizedDebt blockTimestamp)
  let sum ← SafeMath.add totalStableDebt totalVariableDebt
  let totalDebt ← wadToRay sum
  let availableLiquidity ← wadToRay balance
  let usageRatio ← DefaultReserveInterestRateStrategy.utilizationRate totalDebt availableLiquidity
  let maxVariableBorrowRate ← reserve.interestRateStrategy.getMaxVariableBorrowRate
  let threshold ← percentMul maxVariableBorrowRate REBALANCE_UP_LIQUIDITY_RATE_THRESHOLD
  require (usageRatio ≥ REBALANCE_UP_USAGE_RATIO_THRESHOLD ∧
    reserve.currentLiquidityRate ≤ threshold) .lpInterestRateRebalanceConditionsNotMet

def validateFlashloan (assets : List Address) (amounts : List Nat) : Result Unit :=
  require (assets.length = amounts.length) .vlInconsistentFlashloanParams

namespace LendingPool

variable (pool : LendingPool) (blockTimestamp : Nat)

def validateWithdraw (msgSender asset : Address) (amount userBalance : Nat) : Result Unit := do
  require (amount ≠ 0) .vlInvalidAmount
  require (amount ≤ userBalance) .vlNotEnoughAvailableUserBalance
  require (pool.reserves asset).configuration.getFlags.isActive .vlNoActiveReserve
  let allowed ← pool.balanceDecreaseAllowed blockTimestamp asset msgSender amount
    (pool.usersConfig msgSender)
  require allowed .vlTransferNotAllowed

/-- The further conditions of a borrow at the stable rate. -/
def validateStableBorrow (asset userAddress : Address) (amount : Nat)
    (stableRateBorrowingEnabled : Bool) : Result Unit := do
  let reserve := pool.reserves asset
  require stableRateBorrowingEnabled .vlStableBorrowingNotEnabled
  validateStableAgainstCollateral reserve userAddress (pool.usersConfig userAddress) do
    let stableDebt ← reserve.stableDebtBalanceOf blockTimestamp userAddress
    SafeMath.add amount stableDebt
  let maxLoanSizeStable ←
    percentMul (pool.underlyingBalance asset) pool.maxStableRateBorrowSizePercent
  require (amount ≤ maxLoanSizeStable) .vlAmountBiggerThanMaxLoanSizeStable

def validateBorrow (asset userAddress : Address) (amount amountInETH interestRateMode : Nat) :
    Result Unit := do
  let flags := (pool.reserves asset).configuration.getFlags
  require flags.isActive .vlNoActiveReserve
  require (!flags.isFrozen) .vlReserveFrozen
  require (amount ≠ 0) .vlInvalidAmount
  require flags.borrowingEnabled .vlBorrowingNotEnabled
  require (interestRateMode = 2 ∨ interestRateMode = 1) .vlInvalidInterestRateModeSelected
  let account ← pool.calculateUserAccountData blockTimestamp userAddress
    (pool.usersConfig userAddress)
  require (account.totalCollateralInETH > 0) .vlCollateralBalanceIs0
  require (account.healthFactor > HEALTH_FACTOR_LIQUIDATION_THRESHOLD)
    .vlHealthFactorLowerThanLiquidationThreshold
  let needed ← SafeMath.add account.totalDebtInETH amountInETH
  let amountOfCollateralNeededETH ← percentDiv needed account.avgLtv
  require (amountOfCollateralNeededETH ≤ account.totalCollateralInETH)
    .vlCollateralCannotCoverNewBorrow
  if interestRateMode = 1 then
    pool.validateStableBorrow blockTimestamp asset userAddress amount
      flags.stableRateBorrowingEnabled
  else .ok ()

def validateSetUseReserveAsCollateral (msgSender asset : Address) (useAsCollateral : Bool) :
    Result Unit := do
  let underlyingBalance ← (pool.reserves asset).elTokenBalanceOf msgSender
  require (underlyingBalance > 0) .vlUnderlyingBalanceNotGreaterThan0
  if useAsCollateral then .ok ()
  else do
    let allowed ← pool.balanceDecreaseAllowed blockTimestamp asset msgSender underlyingBalance
      (pool.usersConfig msgSender)
    require allowed .vlDepositAlreadyInUse

/-- The error codes and messages of the source become the error that `liquidationCall` of the
pool reverts with. -/
def validateLiquidationCall (collateralAsset debtAsset user : Address)
    (userHealthFactor userStableDebt userVariableDebt : Nat) : Result Unit := do
  let collateralReserve := pool.reserves collateralAsset
  require (collateralReserve.configuration.getActive ∧
    (pool.reserves debtAsset).configuration.getActive) .vlNoActiveReserve
  require (userHealthFactor < HEALTH_FACTOR_LIQUIDATION_THRESHOLD)
    .lpcmHealthFactorNotBelowThreshold
  require (collateralReserve.configuration.getLiquidationThreshold > 0)
    .lpcmCollateralCannotBeLiquidated
  let usedAsCollateral ← (pool.usersConfig user).isUsingAsCollateral collateralReserve.id
  require usedAsCollateral .lpcmCollateralCannotBeLiquidated
  require (¬(userStableDebt = 0 ∧ userVariableDebt = 0))
    .lpcmSpecifiedCurrencyNotBorrowedByUser

def validateTransfer (sender : Address) : Result Unit := do
  let account ← pool.calculateUserAccountData blockTimestamp sender (pool.usersConfig sender)
  require (account.healthFactor ≥ HEALTH_FACTOR_LIQUIDATION_THRESHOLD) .vlTransferNotAllowed

end LendingPool

end ElectroLend
