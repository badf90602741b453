import ElectroLend.Pool.Steps

namespace ElectroLend

open Outcome

/-- `LENDINGPOOL_REVISION`. -/
def PoolVersion.revision : PoolVersion → Nat
  | .lendingPool => 2
  | .lendingPoolTmp => 3
  | .lendingPoolV4 => 4

namespace LendingPool

variable (pool : LendingPool) (blockTimestamp : Nat)

/-- `initReserve` of LendingPoolTmp: `init` is commented out there, and only the addresses are
written. A token that was replaced is out of the pool's sight. -/
def initReserveTmp (input : InitReserveInput) : Result LendingPool := do
  require (pool.isContract input.underlyingAsset) .lpNotContract
  let reserve := { pool.reserves input.underlyingAsset with
    stableDebtTokenAddress := input.stableDebtTokenAddress
    elTokenAddress := input.elTokenAddress
    variableDebtTokenAddress := input.variableDebtTokenAddress
    interestRateStrategy := input.interestRateStrategy
    elToken := ⟨.empty, fun _ _ => 0, input.treasury⟩
    stableDebtToken := .empty
    variableDebtToken := .empty }
  (pool.setReserve input.underlyingAsset reserve).addReserveToList input.underlyingAsset

/-- `_initReserve` of the LendingPoolConfigurator while LendingPoolTmp answers. -/
def listReserveTmp (input : InitReserveInput) : Result LendingPool := do
  requireContract input.elTokenAddress
  requireContract input.stableDebtTokenAddress
  requireContract input.variableDebtTokenAddress
  let pool ← pool.initReserveTmp input
  let currentConfig := (pool.reserves input.underlyingAsset).configuration
  let currentConfig ← currentConfig.setDecimals input.underlyingAssetDecimals
  let currentConfig := (currentConfig.setActive true).setFrozen false
  pure (pool.setConfiguration input.underlyingAsset currentConfig)

/-- `rebalanceStableBorrowRate` of LendingPoolTmp and LendingPoolV4: the stable debt comes back as
stable debt, at the current stable rate. -/
def rebalanceStableBorrowRateUpgraded (asset user : Address) : Result LendingPool := do
  pool.whenNotPaused
  let elTokenAddress := (pool.reserves asset).elTokenAddress
  let stableDebt ← (pool.reserves asset).stableDebtBalanceOf blockTimestamp user
  validateRebalanceStableBorrowRate (pool.reserves asset) blockTimestamp
    (pool.underlyingBalance asset)
  let pool ← pool.updateState blockTimestamp asset
  let pool ← pool.burnStableDebt blockTimestamp asset user stableDebt
  let (_, pool) ← pool.mintStableDebt blockTimestamp asset user user stableDebt
  pool.updateInterestRates blockTimestamp asset elTokenAddress 0 0

/-- `initialize` on the storage of an earlier revision. -/
def initializeStorage : LendingPool :=
  { pool with
    maxStableRateBorrowSizePercent := 2500
    flashLoanPremiumTotal := 9
    maxNumberOfReserves := 128 }

end LendingPool

/-- A call while the proxy runs the given version. -/
def PoolVersion.exec (version : PoolVersion) (blockTimestamp : Nat) (msgSender : Address)
    (call : Call) (pool : LendingPool) : Result LendingPool :=
  match version, call with
  | .lendingPoolTmp, .listReserve input => pool.listReserveTmp input
  | .lendingPoolTmp, .rebalanceStableBorrowRate asset user
  | .lendingPoolV4, .rebalanceStableBorrowRate asset user =>
    pool.rebalanceStableBorrowRateUpgraded blockTimestamp asset user
  | _, call => call.exec blockTimestamp msgSender pool

/-- The proxy: the storage, and the contract whose code runs on it. Every upgrade runs the
initializer, so the revision initialized last is that of the implementation. -/
structure PoolProxy where
  implementation : PoolVersion
  storage : LendingPool

/-- `setLendingPoolImpl`: the initializer only runs for a later revision. -/
def PoolProxy.setLendingPoolImpl (proxy : PoolProxy) (pool : PoolVersion) : Result PoolProxy := do
  require (proxy.implementation.revision < pool.revision) .upgradeCallFailed
  pure ⟨pool, proxy.storage.initializeStorage⟩

/-- Which calls a run may contain, by the version that answers and the state they are made in. -/
abbrev VersionRules := PoolVersion → LendingPool → Call → Prop

/-- Successful calls and flash loans of one version in one block. -/
inductive VersionSteps (allowed : VersionRules) (version : PoolVersion) (t : Nat) :
    LendingPool → LendingPool → Prop
  | refl (pool : LendingPool) : VersionSteps allowed version t pool pool
  | call {start pool pool' : LendingPool} (before : VersionSteps allowed version t start pool)
      (msgSender : Address) (call : Call) (rule : allowed version pool call)
      (success : version.exec t msgSender call pool = .ok pool') :
      VersionSteps allowed version t start pool'
  | flashLoan {start pool pool' : LendingPool} (before : VersionSteps allowed version t start pool)
      (msgSender receiver : Address) (assets : List Address) (amounts modes : List Nat)
      (onBehalfOf : Address) (executeOperation : LendingPool → Result (Bool × LendingPool))
      (callback : ∀ sent answer returned, executeOperation sent = .ok (answer, returned) →
        VersionSteps allowed version t sent returned)
      (success : pool.flashLoan t version msgSender receiver assets amounts modes onBehalfOf
        executeOperation = .ok pool') : VersionSteps allowed version t start pool'

/-- What blocks of steps and upgrades make of a proxy, with the timestamp of the last block. -/
inductive ProxyRun (allowed : VersionRules) (start : PoolProxy) : Nat → PoolProxy → Prop
  | start (t : Nat) : ProxyRun allowed start t start
  | block {t t' : Nat} {version : PoolVersion} {pool pool' : LendingPool}
      (before : ProxyRun allowed start t ⟨version, pool⟩) (later : t ≤ t')
      (timestamp : IsBlockTimestamp t') (steps : VersionSteps allowed version t' pool pool') :
      ProxyRun allowed start t' ⟨version, pool'⟩
  | upgrade {t : Nat} {proxy proxy' : PoolProxy} {pool : PoolVersion}
      (before : ProxyRun allowed start t proxy)
      (success : proxy.setLendingPoolImpl pool = .ok proxy') : ProxyRun allowed start t proxy'

theorem ProxyRun.invariant {allowed : VersionRules} {start proxy : PoolProxy} {t : Nat}
    (P : LendingPool → Prop) (initial : P start.storage)
    (steps : ∀ version t pool pool', P pool → VersionSteps allowed version t pool pool' → P pool')
    (upgrade : ∀ pool : LendingPool, P pool → P pool.initializeStorage)
    (run : ProxyRun allowed start t proxy) : P proxy.storage := by
  induction run with
  | start => exact initial
  | block _ _ _ run ih => exact steps _ _ _ _ ih run
  | upgrade _ success ih =>
    simp only [PoolProxy.setLendingPoolImpl, bind_eq_ok, require_eq_ok, pure_eq_ok] at success
    obtain ⟨_, _, rfl⟩ := success
    exact upgrade _ ih

end ElectroLend
