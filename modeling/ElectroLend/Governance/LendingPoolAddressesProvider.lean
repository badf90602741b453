import ElectroLend.Governance.UpgradeabilityProxy

namespace ElectroLend

open Outcome

structure LendingPoolAddressesProvider where
  owner : Address
  marketId : String
  addresses : Bytes32 → Address

namespace LendingPoolAddressesProvider

def LENDING_POOL : Bytes32 := "LENDING_POOL"
def LENDING_POOL_CONFIGURATOR : Bytes32 := "LENDING_POOL_CONFIGURATOR"
def POOL_ADMIN : Bytes32 := "POOL_ADMIN"
def EMERGENCY_ADMIN : Bytes32 := "EMERGENCY_ADMIN"
def LENDING_POOL_COLLATERAL_MANAGER : Bytes32 := "COLLATERAL_MANAGER"
def PRICE_ORACLE : Bytes32 := "PRICE_ORACLE"
def LENDING_RATE_ORACLE : Bytes32 := "LENDING_RATE_ORACLE"

variable (provider : LendingPoolAddressesProvider) (msgSender : Address)

def getAddress (id : Bytes32) : Address := provider.addresses id
def getLendingPool : Address := provider.getAddress LENDING_POOL
def getLendingPoolConfigurator : Address := provider.getAddress LENDING_POOL_CONFIGURATOR
def getLendingPoolCollateralManager : Address := provider.getAddress LENDING_POOL_COLLATERAL_MANAGER
def getPoolAdmin : Address := provider.getAddress POOL_ADMIN
def getEmergencyAdmin : Address := provider.getAddress EMERGENCY_ADMIN
def getPriceOracle : Address := provider.getAddress PRICE_ORACLE
def getLendingRateOracle : Address := provider.getAddress LENDING_RATE_ORACLE

def onlyOwner : GovernanceResult Unit := require (provider.owner = msgSender) .callerIsNotTheOwner

def transferOwnership (newOwner : Address) : GovernanceResult LendingPoolAddressesProvider := do
  provider.onlyOwner msgSender
  require (newOwner ≠ 0) .newOwnerIsTheZeroAddress
  pure { provider with owner := newOwner }

def renounceOwnership : GovernanceResult LendingPoolAddressesProvider := do
  provider.onlyOwner msgSender
  pure { provider with owner := 0 }

/-- The constructors: the deployer hands over to the initial owner, then the market id is set. -/
def deployed (marketId : String) (initialOwner : Address) :
    GovernanceResult LendingPoolAddressesProvider := do
  let provider ← transferOwnership ⟨msgSender, "", fun _ => 0⟩ msgSender initialOwner
  pure { provider with marketId }

def setMarketId (marketId : String) : GovernanceResult LendingPoolAddressesProvider := do
  provider.onlyOwner msgSender
  pure { provider with marketId }

/-- The assignment `_addresses[id] = newAddress`. -/
def withAddress (id : Bytes32) (newAddress : Address) : LendingPoolAddressesProvider :=
  { provider with addresses := Function.update provider.addresses id newAddress }

def setAddress (id : Bytes32) (newAddress : Address) :
    GovernanceResult LendingPoolAddressesProvider := do
  provider.onlyOwner msgSender
  pure (provider.withAddress id newAddress)

def setLendingPoolCollateralManager (manager : Address) :
    GovernanceResult LendingPoolAddressesProvider :=
  provider.setAddress msgSender LENDING_POOL_COLLATERAL_MANAGER manager

def setPoolAdmin (admin : Address) : GovernanceResult LendingPoolAddressesProvider :=
  provider.setAddress msgSender POOL_ADMIN admin

def setEmergencyAdmin (emergencyAdmin : Address) : GovernanceResult LendingPoolAddressesProvider :=
  provider.setAddress msgSender EMERGENCY_ADMIN emergencyAdmin

def setPriceOracle (priceOracle : Address) : GovernanceResult LendingPoolAddressesProvider :=
  provider.setAddress msgSender PRICE_ORACLE priceOracle

def setLendingRateOracle (lendingRateOracle : Address) :
    GovernanceResult LendingPoolAddressesProvider :=
  provider.setAddress msgSender LENDING_RATE_ORACLE lendingRateOracle

end LendingPoolAddressesProvider

/-- The calls of the addresses provider that only write its own storage. -/
inductive ProviderCall
  | transferOwnership (newOwner : Address)
  | renounceOwnership
  | setMarketId (marketId : String)
  | setAddress (id : Bytes32) (newAddress : Address)
  | setLendingPoolCollateralManager (manager : Address)
  | setPoolAdmin (admin : Address)
  | setEmergencyAdmin (emergencyAdmin : Address)
  | setPriceOracle (priceOracle : Address)
  | setLendingRateOracle (lendingRateOracle : Address)

namespace LendingPoolAddressesProvider

variable (provider : LendingPoolAddressesProvider) (msgSender : Address)

def exec : ProviderCall → GovernanceResult LendingPoolAddressesProvider
  | .transferOwnership newOwner => provider.transferOwnership msgSender newOwner
  | .renounceOwnership => provider.renounceOwnership msgSender
  | .setMarketId marketId => provider.setMarketId msgSender marketId
  | .setAddress id newAddress => provider.setAddress msgSender id newAddress
  | .setLendingPoolCollateralManager manager =>
    provider.setLendingPoolCollateralManager msgSender manager
  | .setPoolAdmin admin => provider.setPoolAdmin msgSender admin
  | .setEmergencyAdmin emergencyAdmin => provider.setEmergencyAdmin msgSender emergencyAdmin
  | .setPriceOracle priceOracle => provider.setPriceOracle msgSender priceOracle
  | .setLendingRateOracle lendingRateOracle =>
    provider.setLendingRateOracle msgSender lendingRateOracle

variable {provider msgSender}

theorem exec_onlyOwner {provider' : LendingPoolAddressesProvider} {call : ProviderCall}
    (h : provider.exec msgSender call = .ok provider') : provider.owner = msgSender := by
  cases call with
  | transferOwnership newOwner =>
    simp only [exec, transferOwnership, bind_eq_ok, onlyOwner, require_eq_ok] at h
    obtain ⟨_, owner, _⟩ := h
    exact owner
  | renounceOwnership =>
    simp only [exec, renounceOwnership, bind_eq_ok, onlyOwner, require_eq_ok] at h
    obtain ⟨_, owner, _⟩ := h
    exact owner
  | setMarketId marketId =>
    simp only [exec, setMarketId, bind_eq_ok, onlyOwner, require_eq_ok] at h
    obtain ⟨_, owner, _⟩ := h
    exact owner
  | _ =>
    simp only [exec, setLendingPoolCollateralManager, setPoolAdmin, setEmergencyAdmin,
      setPriceOracle, setLendingRateOracle, setAddress, bind_eq_ok, onlyOwner, require_eq_ok] at h
    obtain ⟨_, owner, _⟩ := h
    exact owner

end LendingPoolAddressesProvider

/-- The provider at its address, with the other contracts; `blank` is storage that nothing has been
written to. -/
structure Governance (σ : Type) where
  this : Address
  provider : LendingPoolAddressesProvider
  contracts : Address → Option (Contract σ)
  blank : σ
  /-- The events `ProxyCreated`. -/
  proxyCreated : List (Bytes32 × Address)

/-- What anybody can send; a created contract comes with the address that it gets. -/
inductive Transaction (σ : Type)
  | provide (call : ProviderCall)
  | setAddressAsProxy (id : Bytes32) (implementationAddress created : Address)
  | setLendingPoolImpl (pool created : Address)
  | setLendingPoolConfiguratorImpl (configurator created : Address)
  | initializeProxy (proxyAddress logic : Address) (data : CallData)
  | upgradeTo (proxyAddress newImplementation : Address)
  | upgradeToAndCall (proxyAddress newImplementation : Address) (data : CallData)
  | fallback (proxyAddress : Address) (data : CallData)
  | deployCode (created : Address) (code : VersionedCode σ)
  | deployUnversioned (created : Address)
      (execute : CallData → VersionedStorage σ → Option (VersionedStorage σ))
  | deployProxy (created admin : Address)

namespace Governance

variable {σ : Type} (g : Governance σ) (msgSender : Address)

/-- The provider as its constructor leaves it, alone at its address. -/
def deployed (blank : σ) (this : Address) (marketId : String) (initialOwner : Address) :
    GovernanceResult (Governance σ) := do
  let provider ← LendingPoolAddressesProvider.deployed msgSender marketId initialOwner
  let contracts := fun a =>
    if a = this ∧ a ≠ 0 then some (Contract.unversioned fun _ _ => none) else none
  pure ⟨this, provider, contracts, blank, []⟩

def setContract (a : Address) (contract : Contract σ) : Governance σ :=
  { g with contracts := Function.update g.contracts a (some contract) }

/-- A new contract gets an address that nothing is at. -/
def create (created : Address) (contract : Contract σ) : GovernanceResult (Governance σ) := do
  require (created ≠ 0 ∧ (g.contracts created).isNone = true) .addressInUse
  pure (g.setContract created contract)

/-- A call of a function of a proxy. -/
def callProxy (a : Address)
    (call : UpgradeabilityProxy σ → GovernanceResult (UpgradeabilityProxy σ)) :
    GovernanceResult (Governance σ) :=
  match g.contracts a with
  | some (.proxy proxy) => do
    let proxy ← call proxy
    pure (g.setContract a (.proxy proxy))
  | _ => .error .callToNonContract

/-- `_updateImpl`; `created` is the address that the new proxy would get. -/
def updateImpl (id : Bytes32) (newAddress created : Address) : GovernanceResult (Governance σ) := do
  let proxyAddress := g.provider.getAddress id
  let params := CallData.initializeWith ⟨g.this, g.provider.getAddress⟩
  if proxyAddress = 0 then do
    let proxy ← (UpgradeabilityProxy.deployed g.blank g.this).initializeProxy g.contracts newAddress
      params
    let g ← g.create created (.proxy proxy)
    pure { g with
      provider := g.provider.withAddress id created
      proxyCreated := g.proxyCreated ++ [(id, created)] }
  else
    g.callProxy proxyAddress (·.upgradeToAndCall g.contracts g.this newAddress params)

def setAddressAsProxy (id : Bytes32) (implementationAddress created : Address) :
    GovernanceResult (Governance σ) := do
  g.provider.onlyOwner msgSender
  g.updateImpl id implementationAddress created

def setLendingPoolImpl (pool created : Address) : GovernanceResult (Governance σ) := do
  g.provider.onlyOwner msgSender
  g.updateImpl LendingPoolAddressesProvider.LENDING_POOL pool created

def setLendingPoolConfiguratorImpl (configurator created : Address) :
    GovernanceResult (Governance σ) := do
  g.provider.onlyOwner msgSender
  g.updateImpl LendingPoolAddressesProvider.LENDING_POOL_CONFIGURATOR configurator created

def exec : Transaction σ → GovernanceResult (Governance σ)
  | .provide call => do
    let provider ← g.provider.exec msgSender call
    pure { g with provider }
  | .setAddressAsProxy id implementationAddress created =>
    g.setAddressAsProxy msgSender id implementationAddress created
  | .setLendingPoolImpl pool created => g.setLendingPoolImpl msgSender pool created
  | .setLendingPoolConfiguratorImpl configurator created =>
    g.setLendingPoolConfiguratorImpl msgSender configurator created
  | .initializeProxy proxyAddress logic data =>
    g.callProxy proxyAddress (·.initializeProxy g.contracts logic data)
  | .upgradeTo proxyAddress newImplementation =>
    g.callProxy proxyAddress (·.upgradeTo g.contracts msgSender newImplementation)
  | .upgradeToAndCall proxyAddress newImplementation data =>
    g.callProxy proxyAddress (·.upgradeToAndCall g.contracts msgSender newImplementation data)
  | .fallback proxyAddress data => g.callProxy proxyAddress (·.fallback g.contracts msgSender data)
  | .deployCode created code => g.create created (.versioned code)
  | .deployUnversioned created execute => g.create created (.unversioned execute)
  | .deployProxy created admin =>
    g.create created (.proxy (UpgradeabilityProxy.deployed g.blank admin))

/-- What the transactions make of it, each with its sender; one that reverts changes nothing. -/
def history (g : Governance σ) : List (Address × Transaction σ) → Governance σ
  | [] => g
  | (msgSender, transaction) :: rest =>
    match g.exec msgSender transaction with
    | .ok g => history g rest
    | .error _ => history g rest

end Governance

end ElectroLend
