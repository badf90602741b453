import ElectroLend.Pool.State

namespace ElectroLend

open Outcome

namespace LendingPool

variable (pool : LendingPool)

def addReserveToList (asset : Address) : Result LendingPool := do
  let reservesCount := pool.reservesCount
  require (reservesCount < pool.maxNumberOfReserves) .lpNoMoreReservesAllowed
  let reserveAlreadyAdded :=
    (pool.reserves asset).id ≠ 0 ∨ pool.reservesList 0 = asset
  if reserveAlreadyAdded then do
    require (reservesCount > 0) .inconsistentState
    pure pool
  else
    pure { pool.setReserve asset { pool.reserves asset with id := uint8 reservesCount } with
      reservesList := Function.update pool.reservesList reservesCount asset
      reservesCount := reservesCount + 1 }

/-- What `initReserve` of the configurator is given for one reserve: the addresses of the three
proxies it deploys stand for the deployment. -/
structure InitReserveInput where
  underlyingAsset : Address
  underlyingAssetDecimals : Nat
  treasury : Address
  elTokenAddress : Address
  stableDebtTokenAddress : Address
  variableDebtTokenAddress : Address
  interestRateStrategy : DefaultReserveInterestRateStrategy

/-- `initReserve` of the pool, on three freshly deployed tokens. -/
def initReserve (input : InitReserveInput) : Result LendingPool := do
  require (pool.isContract input.underlyingAsset) .lpNotContract
  let reserve ← (pool.reserves input.underlyingAsset).init input.elTokenAddress
    input.stableDebtTokenAddress input.variableDebtTokenAddress
    ⟨.empty, fun _ _ => 0, input.treasury⟩ .empty .empty input.interestRateStrategy
  (pool.setReserve input.underlyingAsset reserve).addReserveToList input.underlyingAsset

def setConfiguration (asset : Address) (configuration : ReserveConfigurationMap) : LendingPool :=
  pool.setReserve asset { pool.reserves asset with configuration }

/-- `_initReserve` of the LendingPoolConfigurator: deploy, list, activate. No proxy is deployed at
the zero address. -/
def listReserve (input : InitReserveInput) : Result LendingPool := do
  requireContract input.elTokenAddress
  requireContract input.stableDebtTokenAddress
  requireContract input.variableDebtTokenAddress
  let pool ← pool.initReserve input
  let currentConfig := (pool.reserves input.underlyingAsset).configuration
  let currentConfig ← currentConfig.setDecimals input.underlyingAssetDecimals
  let currentConfig := (currentConfig.setActive true).setFrozen false
  pure (pool.setConfiguration input.underlyingAsset currentConfig)

def setReserveInterestRateStrategy (asset : Address)
    (interestRateStrategy : DefaultReserveInterestRateStrategy) : LendingPool :=
  pool.setReserve asset { pool.reserves asset with interestRateStrategy }

def setPause (val : Bool) : LendingPool := { pool with paused := val }

end LendingPool

end ElectroLend
