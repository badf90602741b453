import ElectroLend.Pool.TokenCalls

namespace ElectroLend

open Outcome

namespace LendingPool

variable (pool : LendingPool) (blockTimestamp : Nat)

def deposit (msgSender asset : Address) (amount : Nat) (onBehalfOf : Address) :
    Result LendingPool := do
  pool.whenNotPaused
  validateDeposit (pool.reserves asset) amount
  let elToken := (pool.reserves asset).elTokenAddress
  let pool ← pool.updateState blockTimestamp asset
  let pool ← pool.updateInterestRates blockTimestamp asset elToken amount 0
  let pool ← pool.pullUnderlying asset msgSender elToken amount
  let (isFirstDeposit, pool) ← pool.mintELToken asset onBehalfOf amount
  if isFirstDeposit then
    pool.setUsingAsCollateral onBehalfOf (pool.reserves asset).id true
  else .ok pool

/-- `uint256Max` asks for the whole elToken balance. -/
def amountToWithdraw (amount userBalance : Nat) : Nat :=
  if amount = uint256Max then userBalance else amount

/-- The amount withdrawn and the pool. -/
def withdraw (msgSender asset : Address) (amount : Nat) (recipient : Address) :
    Result (Nat × LendingPool) := do
  pool.whenNotPaused
  let elToken := (pool.reserves asset).elTokenAddress
  let userBalance ← (pool.reserves asset).elTokenBalanceOf msgSender
  let amountToWithdraw := amountToWithdraw amount userBalance
  pool.validateWithdraw blockTimestamp msgSender asset amountToWithdraw userBalance
  let pool ← pool.updateState blockTimestamp asset
  let pool ← pool.updateInterestRates blockTimestamp asset elToken 0 amountToWithdraw
  let pool ← (if amountToWithdraw = userBalance then
      pool.setUsingAsCollateral msgSender (pool.reserves asset).id false
    else .ok pool)
  let pool ← pool.burnELToken asset msgSender recipient amountToWithdraw
  pure (amountToWithdraw, pool)

structure ExecuteBorrowParams where
  asset : Address
  user : Address
  onBehalfOf : Address
  amount : Nat
  interestRateMode : Nat
  elTokenAddress : Address
  releaseUnderlying : Bool

/-- The debt is minted at the stored stable rate, or at the stored variable index. -/
def mintDebt (vars : ExecuteBorrowParams) : Result (Bool × LendingPool) := do
  let mode ← InterestRateMode.fromNat vars.interestRateMode
  if mode = .stable then
    pool.mintStableDebt blockTimestamp vars.asset vars.user vars.onBehalfOf vars.amount
  else
    pool.mintVariableDebt vars.asset vars.user vars.onBehalfOf vars.amount
      (pool.reserves vars.asset).variableBorrowIndex

def executeBorrow (vars : ExecuteBorrowParams) : Result LendingPool := do
  let value ← SafeMath.mul (pool.priceOracle vars.asset) vars.amount
  let amountInETH ←
    SafeMath.div value (tokenUnit (pool.reserves vars.asset).configuration.getDecimals)
  pool.validateBorrow blockTimestamp vars.asset vars.onBehalfOf vars.amount amountInETH
    vars.interestRateMode
  let pool ← pool.updateState blockTimestamp vars.asset
  let (isFirstBorrowing, pool) ← pool.mintDebt blockTimestamp vars
  let pool ← (if isFirstBorrowing then
      pool.setBorrowing vars.onBehalfOf (pool.reserves vars.asset).id true
    else .ok pool)
  let pool ← pool.updateInterestRates blockTimestamp vars.asset vars.elTokenAddress 0
    (if vars.releaseUnderlying then vars.amount else 0)
  if vars.releaseUnderlying then
    pool.transferUnderlyingTo vars.asset vars.elTokenAddress vars.user vars.amount
  else .ok pool

def borrow (msgSender asset : Address) (amount interestRateMode : Nat) (onBehalfOf : Address) :
    Result LendingPool := do
  pool.whenNotPaused
  pool.executeBorrow blockTimestamp {
    asset
    user := msgSender
    onBehalfOf
    amount
    interestRateMode
    elTokenAddress := (pool.reserves asset).elTokenAddress
    releaseUnderlying := true }

def burnDebt (asset user : Address) (amount : Nat) (mode : InterestRateMode) :
    Result LendingPool :=
  if mode = .stable then pool.burnStableDebt blockTimestamp asset user amount
  else pool.burnVariableDebt asset user amount

/-- The debt of the mode, or the amount offered for it when that is less. -/
def paybackAmount (amount stableDebt variableDebt : Nat) (mode : InterestRateMode) : Nat :=
  let debt := if mode = .stable then stableDebt else variableDebt
  if amount < debt then amount else debt

/-- The amount repaid and the pool. -/
def repay (msgSender asset : Address) (amount rateMode : Nat) (onBehalfOf : Address) :
    Result (Nat × LendingPool) := do
  pool.whenNotPaused
  let elToken := (pool.reserves asset).elTokenAddress
  let (stableDebt, variableDebt) ←
    (pool.reserves asset).getUserCurrentDebt blockTimestamp onBehalfOf
  let interestRateMode ← InterestRateMode.fromNat rateMode
  validateRepay msgSender (pool.reserves asset) amount interestRateMode onBehalfOf stableDebt
    variableDebt
  let paybackAmount := paybackAmount amount stableDebt variableDebt interestRateMode
  let pool ← pool.updateState blockTimestamp asset
  let pool ← pool.burnDebt blockTimestamp asset onBehalfOf paybackAmount interestRateMode
  let pool ← pool.updateInterestRates blockTimestamp asset elToken paybackAmount 0
  let totalDebt ← SafeMath.add stableDebt variableDebt
  let remaining ← SafeMath.sub totalDebt paybackAmount .safeMathSubtractionOverflow
  let pool ← (if remaining = 0 then
      pool.setBorrowing onBehalfOf (pool.reserves asset).id false
    else .ok pool)
  let pool ← pool.pullUnderlying asset msgSender elToken paybackAmount
  pure (paybackAmount, pool)

/-- The debt of the mode that is left is burned, and minted in the other. -/
def swapDebt (asset user : Address) (stableDebt variableDebt : Nat) (mode : InterestRateMode) :
    Result (Bool × LendingPool) :=
  if mode = .stable then do
    let pool ← pool.burnStableDebt blockTimestamp asset user stableDebt
    pool.mintVariableDebt asset user user stableDebt (pool.reserves asset).variableBorrowIndex
  else do
    let pool ← pool.burnVariableDebt asset user variableDebt
    pool.mintStableDebt blockTimestamp asset user user variableDebt

def swapBorrowRateMode (msgSender asset : Address) (rateMode : Nat) : Result LendingPool := do
  pool.whenNotPaused
  let (stableDebt, variableDebt) ←
    (pool.reserves asset).getUserCurrentDebt blockTimestamp msgSender
  let interestRateMode ← InterestRateMode.fromNat rateMode
  validateSwapRateMode msgSender (pool.reserves asset) (pool.usersConfig msgSender) stableDebt
    variableDebt interestRateMode
  let pool ← pool.updateState blockTimestamp asset
  let (_, pool) ←
    pool.swapDebt blockTimestamp asset msgSender stableDebt variableDebt interestRateMode
  pool.updateInterestRates blockTimestamp asset (pool.reserves asset).elTokenAddress 0 0

/-- The burned stable debt comes back as variable debt, scaled by the current variable rate in
the place of an index. -/
def rebalanceStableBorrowRate (asset user : Address) : Result LendingPool := do
  pool.whenNotPaused
  let elTokenAddress := (pool.reserves asset).elTokenAddress
  let stableDebt ← (pool.reserves asset).stableDebtBalanceOf blockTimestamp user
  validateRebalanceStableBorrowRate (pool.reserves asset) blockTimestamp
    (pool.underlyingBalance asset)
  let pool ← pool.updateState blockTimestamp asset
  let pool ← pool.burnStableDebt blockTimestamp asset user stableDebt
  let (_, pool) ← pool.mintVariableDebt asset user user stableDebt
    (pool.reserves asset).currentVariableBorrowRate
  pool.updateInterestRates blockTimestamp asset elTokenAddress 0 0

def setUserUseReserveAsCollateral (msgSender asset : Address) (useAsCollateral : Bool) :
    Result LendingPool := do
  pool.whenNotPaused
  pool.validateSetUseReserveAsCollateral blockTimestamp msgSender asset useAsCollateral
  pool.setUsingAsCollateral msgSender (pool.reserves asset).id useAsCollateral

def finalizeTransfer (msgSender asset sender recipient : Address)
    (amount balanceFromBefore balanceToBefore : Nat) : Result LendingPool := do
  pool.whenNotPaused
  require (msgSender = (pool.reserves asset).elTokenAddress) .lpCallerMustBeAnELToken
  pool.validateTransfer blockTimestamp sender
  let reserveId := (pool.reserves asset).id
  if sender ≠ recipient then do
    let left ← SafeMath.sub balanceFromBefore amount .safeMathSubtractionOverflow
    let pool ← (if left = 0 then pool.setUsingAsCollateral sender reserveId false else .ok pool)
    if balanceToBefore = 0 ∧ amount ≠ 0 then pool.setUsingAsCollateral recipient reserveId true
    else .ok pool
  else .ok pool

/-- `_transfer` of the elToken of `asset`; the pool is called back when `validate` is set. -/
def transferELToken (asset sender recipient : Address) (amount : Nat) (validate : Bool) :
    Result LendingPool := do
  let reserve := pool.reserves asset
  let index ← reserve.getNormalizedIncome blockTimestamp
  let fromBalanceBefore ← rayMul (reserve.elToken.scaledBalanceOf sender) index
  let toBalanceBefore ← rayMul (reserve.elToken.scaledBalanceOf recipient) index
  let amountScaled ← rayDiv amount index
  let elToken ← reserve.elToken.transferScaled sender recipient amountScaled
  let pool := pool.setReserve asset { reserve with elToken }
  if validate then
    pool.finalizeTransfer blockTimestamp reserve.elTokenAddress asset sender recipient amount
      fromBalanceBefore toBalanceBefore
  else .ok pool

/-- `transfer` of the elToken of `asset`. -/
def elTokenTransfer (msgSender asset recipient : Address) (amount : Nat) : Result LendingPool := do
  requireContract (pool.reserves asset).elTokenAddress
  pool.transferELToken blockTimestamp asset msgSender recipient amount true

/-- `transferFrom` of the elToken of `asset`. -/
def elTokenTransferFrom (msgSender asset sender recipient : Address) (amount : Nat) :
    Result LendingPool := do
  requireContract (pool.reserves asset).elTokenAddress
  let pool ← pool.transferELToken blockTimestamp asset sender recipient amount true
  let reserve := pool.reserves asset
  let remaining ← SafeMath.sub (reserve.elToken.allowances sender msgSender) amount
    .erc20TransferAmountExceedsAllowance
  let elToken ← reserve.elToken.approve sender msgSender remaining
  pure (pool.setReserve asset { reserve with elToken })

end LendingPool

end ElectroLend
