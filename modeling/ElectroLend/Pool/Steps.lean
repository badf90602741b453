import ElectroLend.Pool.FlashLoan
import ElectroLend.Pool.Liquidation
import ElectroLend.Pool.Listing

namespace ElectroLend

open Outcome

/-- The calls that reach the pool, its tokens, its configuration or its oracles, flash loans
apart. The caller is not part of the call. -/
inductive Call
  | deposit (asset : Address) (amount : Nat) (onBehalfOf : Address)
  | withdraw (asset : Address) (amount : Nat) (recipient : Address)
  | borrow (asset : Address) (amount interestRateMode : Nat) (onBehalfOf : Address)
  | repay (asset : Address) (amount rateMode : Nat) (onBehalfOf : Address)
  | swapBorrowRateMode (asset : Address) (rateMode : Nat)
  | rebalanceStableBorrowRate (asset user : Address)
  | setUserUseReserveAsCollateral (asset : Address) (useAsCollateral : Bool)
  | liquidationCall (collateralAsset debtAsset user : Address) (debtToCover : Nat)
      (receiveLToken : Bool)
  | elTokenTransfer (asset recipient : Address) (amount : Nat)
  | elTokenTransferFrom (asset sender recipient : Address) (amount : Nat)
  | elTokenApprove (asset spender : Address) (amount : Nat)
  | approveStableDelegation (asset delegatee : Address) (amount : Nat)
  | approveVariableDelegation (asset delegatee : Address) (amount : Nat)
  | approve (asset spender : Address) (amount : Nat)
  | transfer (asset recipient : Address) (amount : Nat)
  | transferFrom (asset sender recipient : Address) (amount : Nat)
  | listReserve (input : LendingPool.InitReserveInput)
  | setConfiguration (asset : Address) (configuration : ReserveConfigurationMap)
  | setReserveInterestRateStrategy (asset : Address)
      (interestRateStrategy : DefaultReserveInterestRateStrategy)
  | setPause (val : Bool)
  | setAssetPrice (asset : Address) (price : Nat)
  | setMarketBorrowRate (asset : Address) (rate : Nat)

namespace LendingPool

/-- `approveDelegation` of a debt token. -/
def approveDelegation (borrowAllowances : Address → Address → Nat)
    (delegator delegatee : Address) (amount : Nat) : Address → Address → Nat :=
  Function.update borrowAllowances delegator
    (Function.update (borrowAllowances delegator) delegatee amount)

def approveStableDelegation (pool : LendingPool) (msgSender asset delegatee : Address)
    (amount : Nat) : LendingPool :=
  let reserve := pool.reserves asset
  pool.setReserve asset { reserve with
    stableDebtToken := { reserve.stableDebtToken with
      borrowAllowances :=
        approveDelegation reserve.stableDebtToken.borrowAllowances msgSender delegatee amount } }

def approveVariableDelegation (pool : LendingPool) (msgSender asset delegatee : Address)
    (amount : Nat) : LendingPool :=
  let reserve := pool.reserves asset
  pool.setReserve asset { reserve with
    variableDebtToken := { reserve.variableDebtToken with
      borrowAllowances :=
        approveDelegation reserve.variableDebtToken.borrowAllowances msgSender delegatee amount } }

def elTokenApprove (pool : LendingPool) (msgSender asset spender : Address) (amount : Nat) :
    Result LendingPool := do
  let reserve := pool.reserves asset
  let elToken ← reserve.elToken.approve msgSender spender amount
  pure (pool.setReserve asset { reserve with elToken })

/-- A call of a holder on the underlying token. -/
def callToken (pool : LendingPool) (asset : Address) (change : ERC20 → Result ERC20) :
    Result LendingPool := do
  let token ← change (pool.tokens asset)
  pure (pool.setToken asset token)

end LendingPool

/-- The pool and its world after a call of `msgSender` in the block of `blockTimestamp`. -/
def Call.exec (blockTimestamp : Nat) (msgSender : Address) (call : Call) (pool : LendingPool) :
    Result LendingPool :=
  match call with
  | deposit asset amount onBehalfOf =>
    pool.deposit blockTimestamp msgSender asset amount onBehalfOf
  | withdraw asset amount recipient =>
    (·.2) <$> pool.withdraw blockTimestamp msgSender asset amount recipient
  | borrow asset amount interestRateMode onBehalfOf =>
    pool.borrow blockTimestamp msgSender asset amount interestRateMode onBehalfOf
  | repay asset amount rateMode onBehalfOf =>
    (·.2) <$> pool.repay blockTimestamp msgSender asset amount rateMode onBehalfOf
  | swapBorrowRateMode asset rateMode =>
    pool.swapBorrowRateMode blockTimestamp msgSender asset rateMode
  | rebalanceStableBorrowRate asset user => pool.rebalanceStableBorrowRate blockTimestamp asset user
  | setUserUseReserveAsCollateral asset useAsCollateral =>
    pool.setUserUseReserveAsCollateral blockTimestamp msgSender asset useAsCollateral
  | liquidationCall collateralAsset debtAsset user debtToCover receiveLToken =>
    pool.liquidationCall blockTimestamp msgSender collateralAsset debtAsset user debtToCover
      receiveLToken
  | elTokenTransfer asset recipient amount =>
    pool.elTokenTransfer blockTimestamp msgSender asset recipient amount
  | elTokenTransferFrom asset sender recipient amount =>
    pool.elTokenTransferFrom blockTimestamp msgSender asset sender recipient amount
  | elTokenApprove asset spender amount => pool.elTokenApprove msgSender asset spender amount
  | approveStableDelegation asset delegatee amount =>
    .ok (pool.approveStableDelegation msgSender asset delegatee amount)
  | approveVariableDelegation asset delegatee amount =>
    .ok (pool.approveVariableDelegation msgSender asset delegatee amount)
  | approve asset spender amount => pool.callToken asset (·.approve msgSender spender amount)
  | transfer asset recipient amount => pool.callToken asset (·.transfer msgSender recipient amount)
  | transferFrom asset sender recipient amount =>
    pool.callToken asset (·.transferFrom msgSender sender recipient amount)
  | listReserve input => pool.listReserve input
  | setConfiguration asset configuration => .ok (pool.setConfiguration asset configuration)
  | setReserveInterestRateStrategy asset interestRateStrategy =>
    .ok (pool.setReserveInterestRateStrategy asset interestRateStrategy)
  | setPause val => .ok (pool.setPause val)
  | setAssetPrice asset price =>
    .ok { pool with priceOracle := Function.update pool.priceOracle asset price }
  | setMarketBorrowRate asset rate =>
    .ok { pool with lendingRateOracle := Function.update pool.lendingRateOracle asset rate }

/-- Which calls and which flash loans a run may contain, seen from the state they are made in. -/
structure Rules where
  call : LendingPool → Address → Call → Prop
  flashLoan : LendingPool → Address → Address → Prop

/-- No restriction. -/
def Rules.any : Rules := ⟨fun _ _ _ => True, fun _ _ _ => True⟩

/-- Successful calls and flash loans of LendingPool in one block, in any order and by any accounts.
The receiver of a flash loan may itself make such steps, and nothing else. -/
inductive Steps (rules : Rules) (t : Nat) : LendingPool → LendingPool → Prop
  | refl (pool : LendingPool) : Steps rules t pool pool
  | call {start pool pool' : LendingPool} (before : Steps rules t start pool)
      (msgSender : Address) (call : Call) (allowed : rules.call pool msgSender call)
      (success : call.exec t msgSender pool = .ok pool') : Steps rules t start pool'
  | flashLoan {start pool pool' : LendingPool} (before : Steps rules t start pool)
      (msgSender receiver : Address) (assets : List Address) (amounts modes : List Nat)
      (onBehalfOf : Address) (executeOperation : LendingPool → Result (Bool × LendingPool))
      (allowed : rules.flashLoan pool msgSender receiver)
      (callback : ∀ sent answer returned, executeOperation sent = .ok (answer, returned) →
        Steps rules t sent returned)
      (success : pool.flashLoan t .lendingPool msgSender receiver assets amounts modes onBehalfOf
        executeOperation = .ok pool') : Steps rules t start pool'

/-- The states that blocks of steps reach, with the timestamp of the last block. The pool starts
in its initial state, with any tokens and any oracle answers. -/
inductive Reachable (rules : Rules) : Nat → LendingPool → Prop
  | start (t : Nat) (this : Address) (tokens : Address → ERC20)
      (priceOracle lendingRateOracle : Address → Nat) (isContract : Address → Bool) :
      Reachable rules t
        (LendingPool.initialized this tokens priceOracle lendingRateOracle isContract)
  | block {t t' : Nat} {pool pool' : LendingPool} (before : Reachable rules t pool)
      (later : t ≤ t') (timestamp : IsBlockTimestamp t') (steps : Steps rules t' pool pool') :
      Reachable rules t' pool'

theorem Reachable.invariant {rules : Rules} {P : LendingPool → Prop}
    (start : ∀ this tokens priceOracle lendingRateOracle isContract,
      P (LendingPool.initialized this tokens priceOracle lendingRateOracle isContract))
    (steps : ∀ t pool pool', IsBlockTimestamp t → P pool → Steps rules t pool pool' → P pool')
    {t : Nat} {pool : LendingPool} (h : Reachable rules t pool) : P pool := by
  induction h with
  | start _ this tokens priceOracle lendingRateOracle isContract =>
    exact start this tokens priceOracle lendingRateOracle isContract
  | block _ _ timestamp run ih => exact steps _ _ _ timestamp ih run

end ElectroLend
