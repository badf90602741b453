import ElectroLend.Errors
import ElectroLend.Library.AppendOnce
import Mathlib.Logic.Function.Basic

namespace ElectroLend

open Outcome

/-- The ways the registry reverts. -/
inductive RegistryErrors
  | lpaprProviderNotRegistered
  | lpaprInvalidAddressesProviderId
  | callerIsNotTheOwner
  | newOwnerIsTheZeroAddress
  deriving DecidableEq, Repr

def RegistryErrors.message : RegistryErrors → String
  | lpaprProviderNotRegistered => "41"
  | lpaprInvalidAddressesProviderId => "72"
  | callerIsNotTheOwner => "Ownable: caller is not the owner"
  | newOwnerIsTheZeroAddress => "Ownable: new owner is the zero address"

abbrev RegistryResult (α : Type) := Except RegistryErrors α

structure LendingPoolAddressesProviderRegistry where
  owner : Address
  addressesProviders : Address → Nat
  addressesProvidersList : List Address

namespace LendingPoolAddressesProviderRegistry

variable (registry : LendingPoolAddressesProviderRegistry) (msgSender : Address)

def onlyOwner : RegistryResult Unit := require (registry.owner = msgSender) .callerIsNotTheOwner

def transferOwnership (newOwner : Address) : RegistryResult LendingPoolAddressesProviderRegistry := do
  registry.onlyOwner msgSender
  require (newOwner ≠ 0) .newOwnerIsTheZeroAddress
  pure { registry with owner := newOwner }

def renounceOwnership : RegistryResult LendingPoolAddressesProviderRegistry := do
  registry.onlyOwner msgSender
  pure { registry with owner := 0 }

/-- The constructor: the deployer hands the empty registry over to the initial owner. -/
def deployed (initialOwner : Address) : RegistryResult LendingPoolAddressesProviderRegistry :=
  transferOwnership ⟨msgSender, fun _ => 0, []⟩ msgSender initialOwner

/-- A removed provider leaves the zero address in its slot. -/
def getAddressesProvidersList : List Address :=
  registry.addressesProvidersList.map fun provider =>
    if registry.addressesProviders provider > 0 then provider else 0

def getAddressesProviderIdByAddress (addressesProvider : Address) : Nat :=
  registry.addressesProviders addressesProvider

/-- The loop returns at the first slot that holds the provider. -/
def addToAddressesProvidersList (addressesProvidersList : List Address) (provider : Address) :
    List Address :=
  if addressesProvidersList.any (fun listed => listed == provider) then addressesProvidersList
  else addressesProvidersList ++ [provider]

def registerAddressesProvider (provider : Address) (id : Nat) :
    RegistryResult LendingPoolAddressesProviderRegistry := do
  registry.onlyOwner msgSender
  require (id ≠ 0) .lpaprInvalidAddressesProviderId
  pure { registry with
    addressesProviders := Function.update registry.addressesProviders provider id
    addressesProvidersList := addToAddressesProvidersList registry.addressesProvidersList provider }

def unregisterAddressesProvider (provider : Address) :
    RegistryResult LendingPoolAddressesProviderRegistry := do
  registry.onlyOwner msgSender
  require (registry.addressesProviders provider > 0) .lpaprProviderNotRegistered
  pure { registry with
    addressesProviders := Function.update registry.addressesProviders provider 0 }

inductive RegistryCall
  | registerAddressesProvider (provider : Address) (id : Nat)
  | unregisterAddressesProvider (provider : Address)
  | transferOwnership (newOwner : Address)
  | renounceOwnership

/-- The call is not about the zero address, which marks the empty slots. -/
def RegistryCall.NonzeroProvider : RegistryCall → Prop
  | .registerAddressesProvider provider _ => provider ≠ 0
  | .unregisterAddressesProvider provider => provider ≠ 0
  | _ => True

def exec : RegistryCall → RegistryResult LendingPoolAddressesProviderRegistry
  | .registerAddressesProvider provider id =>
    registry.registerAddressesProvider msgSender provider id
  | .unregisterAddressesProvider provider => registry.unregisterAddressesProvider msgSender provider
  | .transferOwnership newOwner => registry.transferOwnership msgSender newOwner
  | .renounceOwnership => registry.renounceOwnership msgSender

/-- The registry after the calls, each with its caller; a call that reverts changes nothing. -/
def history (registry : LendingPoolAddressesProviderRegistry) :
    List (Address × RegistryCall) → LendingPoolAddressesProviderRegistry
  | [] => registry
  | (msgSender, call) :: rest =>
    match registry.exec msgSender call with
    | .ok registry => history registry rest
    | .error _ => history registry rest

end LendingPoolAddressesProviderRegistry

end ElectroLend
