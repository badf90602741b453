import ElectroLend.Errors
import Mathlib.Logic.Function.Basic

namespace ElectroLend

open Outcome

inductive GovernanceErrors
  | callerIsNotTheOwner
  | newOwnerIsTheZeroAddress
  | alreadyInitialized
  | nonContractImplementation
  | fallbackFromAdmin
  | implementationIsSet
  | delegatecallFailed
  | callToNonContract
  | addressInUse
  deriving DecidableEq, Repr

def GovernanceErrors.message : GovernanceErrors → String
  | callerIsNotTheOwner => "Ownable: caller is not the owner"
  | newOwnerIsTheZeroAddress => "Ownable: new owner is the zero address"
  | alreadyInitialized => "Contract instance has already been initialized"
  | nonContractImplementation => "Cannot set a proxy implementation to a non-contract address"
  | fallbackFromAdmin => "Cannot call fallback function from the proxy admin"
  | implementationIsSet => ""
  | delegatecallFailed => ""
  | callToNonContract => ""
  | addressInUse => ""

abbrev GovernanceResult (α : Type) := Except GovernanceErrors α

/-- An id of the addresses provider, as the string literal it is written as. -/
abbrev Bytes32 := String

/-- The argument of `initialize(address)`: a provider, and what its `getAddress` answers. -/
structure ProviderArgument where
  provider : Address
  getAddress : Bytes32 → Address

/-- The code of a contract with a versioned initializer, and what the body of the latter writes
where it does not revert. -/
structure VersionedCode (σ : Type) where
  getRevision : Nat
  initializeBody : ProviderArgument → σ → Option σ

/-- The storage behind a proxy; `body` is what initializers write. -/
structure VersionedStorage (σ : Type) where
  lastInitializedRevision : Nat
  initializing : Bool
  body : σ

variable {σ : Type}

/-- `initialize(address)`, under the modifier `initializer`. Behind a proxy there is code at the account,
and `isConstructor` is false. -/
def VersionedCode.initializer (code : VersionedCode σ) (argument : ProviderArgument)
    (store : VersionedStorage σ) : GovernanceResult (VersionedStorage σ) := do
  require (store.initializing = true ∨ store.lastInitializedRevision < code.getRevision)
    .alreadyInitialized
  let isTopLevelCall := !store.initializing
  let store := if isTopLevelCall then
      { store with initializing := true, lastInitializedRevision := code.getRevision }
    else store
  match code.initializeBody argument store.body with
  | none => .error .delegatecallFailed
  | some body => .ok { store with
      initializing := if isTopLevelCall then false else store.initializing
      body }

/-- A proxy: the immutable admin, the slot of the implementation, and the storage its code runs on. -/
structure UpgradeabilityProxy (σ : Type) where
  ADMIN : Address
  implementation : Address
  store : VersionedStorage σ

inductive CallData
  | empty
  | initializeWith (argument : ProviderArgument)

inductive Contract (σ : Type)
  | versioned (code : VersionedCode σ)
  | proxy (proxy : UpgradeabilityProxy σ)
  /-- A contract without revisions. Called through a proxy, it may write the storage behind that as it
  likes, where there may be an `initialize(address)` of its own; or it reverts. -/
  | unversioned (execute : CallData → VersionedStorage σ → Option (VersionedStorage σ))

/-- A call that is delegated to a contract, with the storage it runs on. A proxy that is delegated to
finds itself in the slot of the implementation, and calls itself until the gas is used up. -/
def delegatecall (contract : Option (Contract σ)) (data : CallData) (store : VersionedStorage σ) :
    GovernanceResult (VersionedStorage σ) :=
  match contract, data with
  | none, _ => .ok store
  | some (.versioned code), .initializeWith argument => code.initializer argument store
  | some (.unversioned execute), data =>
    match execute data store with
    | some store => .ok store
    | none => .error .delegatecallFailed
  | some _, _ => .error .delegatecallFailed

namespace UpgradeabilityProxy

variable (contracts : Address → Option (Contract σ)) (proxy : UpgradeabilityProxy σ)

/-- `new InitializableImmutableAdminUpgradeabilityProxy(admin)`; the storage is blank. -/
def deployed (blank : σ) (admin : Address) : UpgradeabilityProxy σ := ⟨admin, 0, 0, false, blank⟩

/-- `_setImplementation`, with `Address.isContract`. -/
def setImplementation (newImplementation : Address) : GovernanceResult (UpgradeabilityProxy σ) := do
  require ((contracts newImplementation).isSome = true) .nonContractImplementation
  pure { proxy with implementation := newImplementation }

/-- `_fallback`: only when the sender is not the admin. -/
def fallback (msgSender : Address) (data : CallData) :
    GovernanceResult (UpgradeabilityProxy σ) := do
  require (msgSender ≠ proxy.ADMIN) .fallbackFromAdmin
  let store ← delegatecall (contracts proxy.implementation) data proxy.store
  pure { proxy with store }

/-- `initialize(address,bytes)` of the proxy itself. -/
def initializeProxy (logic : Address) (data : CallData) : GovernanceResult (UpgradeabilityProxy σ) := do
  require (proxy.implementation = 0) .implementationIsSet
  let proxy ← proxy.setImplementation contracts logic
  match data with
  | .empty => pure proxy
  | .initializeWith argument => do
    let store ← delegatecall (contracts logic) (.initializeWith argument) proxy.store
    pure { proxy with store }

/-- `ifAdmin`. For anybody else the call goes to the implementation, which has no function of that
name; where there is no implementation, nothing happens. -/
def ifAdmin (msgSender : Address) (action : GovernanceResult (UpgradeabilityProxy σ)) :
    GovernanceResult (UpgradeabilityProxy σ) :=
  if msgSender = proxy.ADMIN then action else proxy.fallback contracts msgSender .empty

def upgradeTo (msgSender newImplementation : Address) : GovernanceResult (UpgradeabilityProxy σ) :=
  proxy.ifAdmin contracts msgSender (proxy.setImplementation contracts newImplementation)

def upgradeToAndCall (msgSender newImplementation : Address) (data : CallData) :
    GovernanceResult (UpgradeabilityProxy σ) :=
  proxy.ifAdmin contracts msgSender do
    let proxy ← proxy.setImplementation contracts newImplementation
    let store ← delegatecall (contracts newImplementation) data proxy.store
    pure { proxy with store }

end UpgradeabilityProxy

variable {contracts : Address → Option (Contract σ)} {proxy proxy' : UpgradeabilityProxy σ}

theorem VersionedCode.initializer_eq_ok {code : VersionedCode σ} {argument : ProviderArgument}
    {store store' : VersionedStorage σ} (settled : store.initializing = false)
    (h : code.initializer argument store = .ok store') :
    store.lastInitializedRevision < code.getRevision ∧
      ∃ body, code.initializeBody argument store.body = some body ∧
        store' = ⟨code.getRevision, false, body⟩ := by
  simp only [VersionedCode.initializer, settled, Bool.false_eq_true, false_or, Bool.not_false,
    if_true, bind_eq_ok, require_eq_ok] at h
  obtain ⟨_, later, h⟩ := h
  split at h
  next => cases h
  next body hbody => exact ⟨later, body, hbody, (Except.ok.inj h).symm⟩

/-- The admin's upgrade: the new implementation has been called on the storage as it was. -/
structure UpgradeabilityProxy.Upgraded (contracts : Address → Option (Contract σ))
    (proxy : UpgradeabilityProxy σ) (newImplementation : Address) (argument : ProviderArgument)
    (proxy' : UpgradeabilityProxy σ) : Prop where
  present : (contracts newImplementation).isSome = true
  admin : proxy'.ADMIN = proxy.ADMIN
  implementation : proxy'.implementation = newImplementation
  called : delegatecall (contracts newImplementation) (.initializeWith argument) proxy.store =
    .ok proxy'.store

namespace UpgradeabilityProxy

theorem setImplementation_call {newImplementation : Address} {argument : ProviderArgument}
    {middle : UpgradeabilityProxy σ} {store : VersionedStorage σ}
    (hset : proxy.setImplementation contracts newImplementation = .ok middle)
    (hcall : delegatecall (contracts newImplementation) (.initializeWith argument) middle.store =
      .ok store) :
    proxy.Upgraded contracts newImplementation argument { middle with store } := by
  simp only [setImplementation, bind_eq_ok, require_eq_ok, pure_eq_ok] at hset
  obtain ⟨_, isContract, rfl⟩ := hset
  exact ⟨isContract, rfl, rfl, hcall⟩

theorem upgradeToAndCall_eq_ok {newImplementation : Address} {argument : ProviderArgument}
    (h : proxy.upgradeToAndCall contracts proxy.ADMIN newImplementation (.initializeWith argument) =
      .ok proxy') : proxy.Upgraded contracts newImplementation argument proxy' := by
  simp only [upgradeToAndCall, ifAdmin, if_true, bind_eq_ok, pure_eq_ok] at h
  obtain ⟨middle, hset, store, hcall, rfl⟩ := h
  exact setImplementation_call hset hcall

theorem initializeProxy_eq_ok {logic : Address} {argument : ProviderArgument}
    (h : proxy.initializeProxy contracts logic (.initializeWith argument) = .ok proxy') :
    proxy.Upgraded contracts logic argument proxy' := by
  simp only [initializeProxy, bind_eq_ok, pure_eq_ok] at h
  obtain ⟨_, _, middle, hset, store, hcall, rfl⟩ := h
  exact setImplementation_call hset hcall

theorem Upgraded.versioned {newImplementation : Address} {argument : ProviderArgument}
    {code : VersionedCode σ} (upgraded : proxy.Upgraded contracts newImplementation argument proxy')
    (hcode : contracts newImplementation = some (.versioned code))
    (settled : proxy.store.initializing = false) :
    proxy.store.lastInitializedRevision < code.getRevision ∧
      ∃ body, code.initializeBody argument proxy.store.body = some body ∧
        proxy'.store = ⟨code.getRevision, false, body⟩ := by
  have called := upgraded.called
  rw [hcode] at called
  exact VersionedCode.initializer_eq_ok settled called

/-- The proxy runs the versioned code that has initialized it last. -/
structure Settled (contracts : Address → Option (Contract σ)) (proxy : UpgradeabilityProxy σ) :
    Prop where
  initializing : proxy.store.initializing = false
  runs : ∃ code, contracts proxy.implementation = some (.versioned code) ∧
    code.getRevision = proxy.store.lastInitializedRevision

theorem fallback_eq_ok {msgSender : Address} {data : CallData}
    (h : proxy.fallback contracts msgSender data = .ok proxy') :
    proxy'.ADMIN = proxy.ADMIN ∧ proxy'.implementation = proxy.implementation ∧
      delegatecall (contracts proxy.implementation) data proxy.store = .ok proxy'.store := by
  simp only [fallback, bind_eq_ok, pure_eq_ok] at h
  obtain ⟨_, _, store, hcall, rfl⟩ := h
  exact ⟨rfl, rfl, hcall⟩

/-- Nobody gets anything out of the code that a settled proxy runs: its initializer has run, and all
else is unknown to it. -/
theorem Settled.delegatecall_fails {data : CallData} {store : VersionedStorage σ}
    (settled : proxy.Settled contracts) :
    delegatecall (contracts proxy.implementation) data proxy.store ≠ .ok store := by
  intro hcall
  obtain ⟨code, hcode, hrevision⟩ := settled.runs
  rw [hcode] at hcall
  cases data with
  | empty => cases hcall
  | initializeWith argument =>
    obtain ⟨later, _⟩ := VersionedCode.initializer_eq_ok settled.initializing hcall
    omega

end UpgradeabilityProxy

end ElectroLend
