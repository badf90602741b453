import ElectroLend.Pool.ValidationLogic

namespace ElectroLend

open Outcome

namespace LendingPool

/-- `IERC20(asset).safeTransferFrom(sender, recipient, amount)`. -/
def pullUnderlying (pool : LendingPool) (asset sender recipient : Address) (amount : Nat) :
    Result LendingPool := do
  let token ← SafeERC20.safeTransferFrom (pool.tokens asset) pool.this sender recipient amount
  pure (pool.setToken asset token)

def transferUnderlyingTo (pool : LendingPool) (asset elToken target : Address) (amount : Nat) :
    Result LendingPool := do
  let token ← ELToken.transferUnderlyingTo (pool.tokens asset) elToken target amount
  pure (pool.setToken asset token)

def mintELToken (pool : LendingPool) (asset user : Address) (amount : Nat) :
    Result (Bool × LendingPool) := do
  let reserve := pool.reserves asset
  let (isFirstDeposit, elToken) ← reserve.elToken.mint user amount reserve.liquidityIndex
  pure (isFirstDeposit, pool.setReserve asset { reserve with elToken })

def burnELToken (pool : LendingPool) (asset user receiverOfUnderlying : Address) (amount : Nat) :
    Result LendingPool := do
  let reserve := pool.reserves asset
  let (elToken, token) ← reserve.elToken.burn (pool.tokens asset) reserve.elTokenAddress user
    receiverOfUnderlying amount reserve.liquidityIndex
  pure ((pool.setReserve asset { reserve with elToken }).setToken asset token)

def mintVariableDebt (pool : LendingPool) (asset user onBehalfOf : Address) (amount index : Nat) :
    Result (Bool × LendingPool) := do
  let reserve := pool.reserves asset
  let (isFirstBorrowing, variableDebtToken) ←
    reserve.variableDebtToken.mint user onBehalfOf amount index
  pure (isFirstBorrowing, pool.setReserve asset { reserve with variableDebtToken })

def burnVariableDebt (pool : LendingPool) (asset user : Address) (amount : Nat) :
    Result LendingPool := do
  let reserve := pool.reserves asset
  let variableDebtToken ←
    reserve.variableDebtToken.burn user amount reserve.variableBorrowIndex
  pure (pool.setReserve asset { reserve with variableDebtToken })

def mintStableDebt (pool : LendingPool) (blockTimestamp : Nat) (asset user onBehalfOf : Address)
    (amount : Nat) : Result (Bool × LendingPool) := do
  let reserve := pool.reserves asset
  let (isFirstBorrowing, stableDebtToken) ← reserve.stableDebtToken.mint blockTimestamp user
    onBehalfOf amount reserve.currentStableBorrowRate
  pure (isFirstBorrowing, pool.setReserve asset { reserve with stableDebtToken })

def burnStableDebt (pool : LendingPool) (blockTimestamp : Nat) (asset user : Address)
    (amount : Nat) : Result LendingPool := do
  let reserve := pool.reserves asset
  let stableDebtToken ← reserve.stableDebtToken.burn blockTimestamp user amount
  pure (pool.setReserve asset { reserve with stableDebtToken })

end LendingPool

end ElectroLend
