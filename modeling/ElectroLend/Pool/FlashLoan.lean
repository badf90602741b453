import ElectroLend.Pool.LendingPool

namespace ElectroLend

open Outcome

/-- One position of the parallel arrays of `flashLoan`, after the loan was sent: the elToken's
address and the premium are those of that moment, before the receiver ran. -/
structure FlashLoanEntry where
  asset : Address
  elTokenAddress : Address
  amount : Nat
  premium : Nat

/-- The copies of the contract that differ in `flashLoan`. -/
inductive PoolVersion
  | lendingPool
  | lendingPoolTmp
  | lendingPoolV4
  deriving DecidableEq, Repr

namespace LendingPool

variable (blockTimestamp : Nat)

/-- The first loop: the underlying leaves each elToken. -/
def sendFlashLoan (pool : LendingPool) (receiver : Address) :
    List (Address × Nat) → Result (List FlashLoanEntry × LendingPool)
  | [] => .ok ([], pool)
  | (asset, amount) :: rest => do
    let elTokenAddress := (pool.reserves asset).elTokenAddress
    let product ← SafeMath.mul amount pool.flashLoanPremiumTotal
    let premium ← SafeMath.div product 10000
    requireContract elTokenAddress
    let pool ← pool.transferUnderlyingTo asset elTokenAddress receiver amount
    let (entries, pool) ← sendFlashLoan pool receiver rest
    pure (⟨asset, elTokenAddress, amount, premium⟩ :: entries, pool)

/-- How a version asks for the amount and premium of a loan without debt: LendingPool from the
underlying, the two others from the elToken itself. -/
def pullFlashLoan (pool : LendingPool) (version : PoolVersion) (receiver : Address)
    (entry : FlashLoanEntry) (amountPlusPremium : Nat) : Result LendingPool :=
  match version with
  | .lendingPool =>
    pool.pullUnderlying entry.asset receiver entry.elTokenAddress amountPlusPremium
  | .lendingPoolTmp | .lendingPoolV4 =>
    SafeERC20.lowLevelCall (pool.elTokenTransferFrom blockTimestamp pool.this entry.asset receiver
      entry.elTokenAddress amountPlusPremium)

/-- The premium becomes income of the depositors, whose scaled supply `totalSupply` answers. -/
def cumulateToLiquidityIndex (pool : LendingPool) (asset : Address) (premium : Nat) :
    Result LendingPool := do
  let reserve := pool.reserves asset
  let reserve ← reserve.cumulateToLiquidityIndex reserve.elToken.totalSupply premium
  pure (pool.setReserve asset reserve)

def returnFlashLoan (pool : LendingPool) (version : PoolVersion) (receiver : Address)
    (entry : FlashLoanEntry) : Result LendingPool := do
  let amountPlusPremium ← SafeMath.add entry.amount entry.premium
  let pool ← pool.updateState blockTimestamp entry.asset
  let pool ← pool.cumulateToLiquidityIndex entry.asset entry.premium
  let pool ← pool.updateInterestRates blockTimestamp entry.asset entry.elTokenAddress
    amountPlusPremium 0
  pool.pullFlashLoan blockTimestamp version receiver entry amountPlusPremium

/-- The body of the second loop. -/
def settleFlashLoanEntry (pool : LendingPool) (version : PoolVersion)
    (msgSender receiver onBehalfOf : Address) (entry : FlashLoanEntry) (mode : Nat) :
    Result LendingPool := do
  let interestRateMode ← InterestRateMode.fromNat mode
  if interestRateMode = .none then
    pool.returnFlashLoan blockTimestamp version receiver entry
  else
    pool.executeBorrow blockTimestamp {
      asset := entry.asset
      user := msgSender
      onBehalfOf
      amount := entry.amount
      interestRateMode := mode
      elTokenAddress := entry.elTokenAddress
      releaseUnderlying := false }

/-- The second loop; a missing mode is an access out of bounds. -/
def settleFlashLoan (pool : LendingPool) (version : PoolVersion)
    (msgSender receiver onBehalfOf : Address) :
    List FlashLoanEntry → List Nat → Result LendingPool
  | [], _ => .ok pool
  | _ :: _, [] => .error .indexOutOfBounds
  | entry :: entries, mode :: modes => do
    let pool ← pool.settleFlashLoanEntry blockTimestamp version msgSender receiver onBehalfOf
      entry mode
    settleFlashLoan pool version msgSender receiver onBehalfOf entries modes

/-- `executeOperation` is the code of the receiver: its answer and what it leaves of the pool and
the tokens. -/
def flashLoan (pool : LendingPool) (version : PoolVersion) (msgSender receiver : Address)
    (assets : List Address) (amounts modes : List Nat) (onBehalfOf : Address)
    (executeOperation : LendingPool → Result (Bool × LendingPool)) : Result LendingPool := do
  pool.whenNotPaused
  validateFlashloan assets amounts
  let (entries, pool) ← pool.sendFlashLoan receiver (assets.zip amounts)
  let (answer, pool) ← executeOperation pool
  require answer .lpInvalidFlashLoanExecutorReturn
  pool.settleFlashLoan blockTimestamp version msgSender receiver onBehalfOf entries modes

end LendingPool

end ElectroLend
