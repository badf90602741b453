import ElectroLend.Configuration.UserConfiguration
import ElectroLend.Lending.Accrual
import Mathlib.Tactic.Simps.Basic

namespace ElectroLend

open Outcome

/-- `LendingPoolStorage` with the contracts it refers to: the underlying tokens, the price oracle
and the lending rate oracle, each as what it answers for an asset. -/
structure LendingPool where
  this : Address
  reserves : Address → Reserve
  usersConfig : Address → UserConfigurationMap
  reservesList : Nat → Address
  reservesCount : Nat
  paused : Bool
  maxStableRateBorrowSizePercent : Nat
  flashLoanPremiumTotal : Nat
  maxNumberOfReserves : Nat
  tokens : Address → ERC20
  priceOracle : Address → Nat
  lendingRateOracle : Address → Nat
  isContract : Address → Bool

namespace LendingPool

/-- The pool after its initializer, in a world of given tokens and oracle answers. -/
def initialized (this : Address) (tokens : Address → ERC20)
    (priceOracle lendingRateOracle : Address → Nat) (isContract : Address → Bool) :
    LendingPool where
  this
  reserves := fun _ => .unlisted
  usersConfig := fun _ => ⟨0⟩
  reservesList := fun _ => 0
  reservesCount := 0
  paused := false
  maxStableRateBorrowSizePercent := 2500
  flashLoanPremiumTotal := 9
  maxNumberOfReserves := 128
  tokens
  priceOracle
  lendingRateOracle
  isContract

@[simps] def setReserve (pool : LendingPool) (asset : Address) (reserve : Reserve) : LendingPool :=
  { pool with reserves := Function.update pool.reserves asset reserve }

theorem setReserve_setReserve (pool : LendingPool) (asset : Address) (r r' : Reserve) :
    (pool.setReserve asset r).setReserve asset r' = pool.setReserve asset r' := by
  simp [setReserve]

theorem setReserve_forall {P : Address → Reserve → Prop} {pool : LendingPool} {asset : Address}
    {r : Reserve} (stored : P asset r) (before : ∀ a, P a (pool.reserves a)) (a : Address) :
    P a ((pool.setReserve asset r).reserves a) := by
  by_cases ha : a = asset
  · subst ha
    simpa using stored
  · simpa [ha] using before a

@[simps] def setToken (pool : LendingPool) (asset : Address) (token : ERC20) : LendingPool :=
  { pool with tokens := Function.update pool.tokens asset token }

@[simps] def setUserConfig (pool : LendingPool) (user : Address) (config : UserConfigurationMap) :
    LendingPool :=
  { pool with usersConfig := Function.update pool.usersConfig user config }

/-- The underlying balance of the elToken of a reserve. -/
def underlyingBalance (pool : LendingPool) (asset : Address) : Nat :=
  (pool.tokens asset).balanceOf (pool.reserves asset).elTokenAddress

def whenNotPaused (pool : LendingPool) : Result Unit := require (!pool.paused) .lpIsPaused

/-- `setUsingAsCollateral` or `setBorrowing` on one entry of the map of user configurations. -/
def updateUserConfig (pool : LendingPool) (user : Address)
    (change : UserConfigurationMap → Result UserConfigurationMap) : Result LendingPool := do
  let config ← change (pool.usersConfig user)
  pure (pool.setUserConfig user config)

def setUsingAsCollateral (pool : LendingPool) (user : Address) (reserveId : Nat) (value : Bool) :
    Result LendingPool :=
  pool.updateUserConfig user (·.setUsingAsCollateral reserveId value)

def setBorrowing (pool : LendingPool) (user : Address) (reserveId : Nat) (value : Bool) :
    Result LendingPool :=
  pool.updateUserConfig user (·.setBorrowing reserveId value)

/-- `reserve.updateState()`, in storage. -/
def updateState (pool : LendingPool) (blockTimestamp : Nat) (asset : Address) :
    Result LendingPool := do
  let reserve ← (pool.reserves asset).updateState blockTimestamp
  pure (pool.setReserve asset reserve)

/-- `reserve.updateInterestRates(asset, elToken, added, taken)`, in storage. -/
def updateInterestRates (pool : LendingPool) (blockTimestamp : Nat) (asset elToken : Address)
    (liquidityAdded liquidityTaken : Nat) : Result LendingPool := do
  let reserve ← (pool.reserves asset).updateInterestRates blockTimestamp
    (pool.lendingRateOracle asset) ((pool.tokens asset).balanceOf elToken) liquidityAdded
    liquidityTaken
  pure (pool.setReserve asset reserve)

end LendingPool

end ElectroLend
