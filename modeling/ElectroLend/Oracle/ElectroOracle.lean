import ElectroLend.Oracle.SimplePriceFeed

namespace ElectroLend

open Outcome

inductive OracleErrors
  | price (e : PriceErrors)
  | newOwnerIsTheZeroAddress
  | alreadyInitialized
  | callToNonContract
  | addressInUse
  deriving DecidableEq, Repr

/-- A call to an address without the contract reverts without a reason; that an address is taken
is no revert of the source, where every deployment gets its own. -/
def OracleErrors.message : OracleErrors → String
  | price e => e.message
  | newOwnerIsTheZeroAddress => "Ownable: new owner is the zero address"
  | alreadyInitialized => "Contract instance has already been initialized"
  | callToNonContract | addressInUse => ""

abbrev OracleResult (α : Type) := Except OracleErrors α

namespace Ownable

variable (owner msgSender : Address)

def onlyOwner : OracleResult Unit := require (owner = msgSender) (.price .callerIsNotTheOwner)

def renounceOwnership : OracleResult Address := do
  onlyOwner owner msgSender
  pure 0

def transferOwnership (newOwner : Address) : OracleResult Address := do
  onlyOwner owner msgSender
  require (newOwner ≠ 0) .newOwnerIsTheZeroAddress
  pure newOwner

variable {owner msgSender owner' newOwner : Address}

theorem renounceOwnership_owner (h : renounceOwnership owner msgSender = .ok owner') :
    msgSender = owner := by
  obtain ⟨_, own, _⟩ := bind_eq_ok.mp h
  exact (require_eq_ok.mp own).symm

theorem transferOwnership_owner (h : transferOwnership owner msgSender newOwner = .ok owner') :
    msgSender = owner := by
  obtain ⟨_, own, _⟩ := bind_eq_ok.mp h
  exact (require_eq_ok.mp own).symm

end Ownable

inductive FeedCall
  | addUpdater (updater : Address)
  | removeUpdater (updater : Address)
  | updatePrice (symbol : Bytes) (price : Word)
  | updatePrices (symbols : List Bytes) (prices : List Word)
  | setStalePriceAge (newAge : Word)
  | renounceOwnership
  | transferOwnership (newOwner : Address)

def FeedCall.exec (blockTimestamp : Word) (msgSender : Address) (feed : SimplePriceFeed) :
    FeedCall → OracleResult SimplePriceFeed
  | addUpdater updater => (feed.addUpdater msgSender updater).mapError .price
  | removeUpdater updater => (feed.removeUpdater msgSender updater).mapError .price
  | updatePrice symbol price =>
    (feed.updatePrice blockTimestamp msgSender symbol price).mapError .price
  | updatePrices symbols prices =>
    (feed.updatePrices blockTimestamp msgSender symbols prices).mapError .price
  | setStalePriceAge newAge => (feed.setStalePriceAge msgSender newAge).mapError .price
  | renounceOwnership => do
    let owner ← Ownable.renounceOwnership feed.owner msgSender
    pure { feed with owner }
  | transferOwnership newOwner => do
    let owner ← Ownable.transferOwnership feed.owner msgSender newOwner
    pure { feed with owner }

/-- What an adapter stores: of its feed the address. -/
structure AdapterStorage where
  owner : Address
  priceFeed : Address
  assetToSymbol : Address → Bytes
  directPrices : Address → Word

namespace AdapterStorage

/-- The adapter when `feed` stands at the address it stores. -/
def reading (storage : AdapterStorage) (feed : SimplePriceFeed) : SimplePriceFeedAdapter where
  owner := storage.owner
  priceFeed := feed
  assetToSymbol := storage.assetToSymbol
  directPrices := storage.directPrices

/-- A setter, none of which looks at the feed. -/
def set (storage : AdapterStorage)
    (setter : SimplePriceFeedAdapter → PriceResult SimplePriceFeedAdapter) :
    OracleResult AdapterStorage := do
  let written ← (setter (storage.reading (.deployed 0))).mapError .price
  pure { storage with
    assetToSymbol := written.assetToSymbol
    directPrices := written.directPrices }

/-- The constructor; ElectroOwnable hands the new contract over to its owner at once. -/
def deployed (deployer priceFeed owner : Address) : OracleResult AdapterStorage := do
  let owner ← Ownable.transferOwnership deployer deployer owner
  pure ⟨owner, priceFeed, fun _ => [], fun _ => 0⟩

end AdapterStorage

inductive AdapterCall
  | setPriceFeed (priceFeed : Address)
  | setAssetSymbol (asset : Address) (symbol : Bytes)
  | setAssetSymbols (assets : List Address) (symbols : List Bytes)
  | setDirectPrice (asset : Address) (price : Word)
  | setDirectPrices (assets : List Address) (prices : List Word)
  | renounceOwnership
  | transferOwnership (newOwner : Address)

def AdapterCall.exec (msgSender : Address) (storage : AdapterStorage) :
    AdapterCall → OracleResult AdapterStorage
  | setPriceFeed priceFeed => do
    Ownable.onlyOwner storage.owner msgSender
    pure { storage with priceFeed }
  | setAssetSymbol asset symbol => storage.set (·.setAssetSymbol msgSender asset symbol)
  | setAssetSymbols assets symbols => storage.set (·.setAssetSymbols msgSender assets symbols)
  | setDirectPrice asset price => storage.set (·.setDirectPrice msgSender asset price)
  | setDirectPrices assets prices => storage.set (·.setDirectPrices msgSender assets prices)
  | renounceOwnership => do
    let owner ← Ownable.renounceOwnership storage.owner msgSender
    pure { storage with owner }
  | transferOwnership newOwner => do
    let owner ← Ownable.transferOwnership storage.owner msgSender newOwner
    pure { storage with owner }

structure ElectroOracle where
  owner : Address
  BASE_CURRENCY : Address
  BASE_CURRENCY_UNIT : Word
  adapter : Address
  initialized : Bool

inductive OracleCall
  | initializer (adapter : Address)
  | setAdapter (adapter : Address)
  | renounceOwnership
  | transferOwnership (newOwner : Address)

/-- `initializer` is the function that the modifier of that name guards: whoever comes first may
call it. -/
def OracleCall.exec (msgSender : Address) (oracle : ElectroOracle) :
    OracleCall → OracleResult ElectroOracle
  | initializer adapter => do
    require (oracle.initialized = false) .alreadyInitialized
    pure { oracle with adapter, initialized := true }
  | setAdapter adapter => do
    Ownable.onlyOwner oracle.owner msgSender
    pure { oracle with adapter }
  | renounceOwnership => do
    let owner ← Ownable.renounceOwnership oracle.owner msgSender
    pure { oracle with owner }
  | transferOwnership newOwner => do
    let owner ← Ownable.transferOwnership oracle.owner msgSender newOwner
    pure { oracle with owner }

/-- The oracle, and the feeds and adapters at their addresses. -/
structure PriceWorld where
  feeds : Address → Option SimplePriceFeed
  adapters : Address → Option AdapterStorage
  oracle : ElectroOracle

inductive PriceWorldCall
  | feed (target : Address) (call : FeedCall)
  | adapter (target : Address) (call : AdapterCall)
  | oracle (call : OracleCall)
  | deployFeed (target : Address)
  | deployAdapter (target priceFeed owner : Address)

namespace PriceWorld

variable (world : PriceWorld) (now : Word)

def unused (target : Address) : Bool :=
  (world.feeds target).isNone && (world.adapters target).isNone

def exec (blockTimestamp : Word) (msgSender : Address) : PriceWorldCall → OracleResult PriceWorld
  | .feed target call =>
    match world.feeds target with
    | none => .error .callToNonContract
    | some feed => do
      let feed ← call.exec blockTimestamp msgSender feed
      pure { world with feeds := Function.update world.feeds target (some feed) }
  | .adapter target call =>
    match world.adapters target with
    | none => .error .callToNonContract
    | some storage => do
      let storage ← call.exec msgSender storage
      pure { world with adapters := Function.update world.adapters target (some storage) }
  | .oracle call => do
    let oracle ← call.exec msgSender world.oracle
    pure { world with oracle }
  | .deployFeed target => do
    require (world.unused target = true) .addressInUse
    pure { world with feeds := Function.update world.feeds target (some (.deployed msgSender)) }
  | .deployAdapter target priceFeed owner => do
    require (world.unused target = true) .addressInUse
    let storage ← AdapterStorage.deployed msgSender priceFeed owner
    pure { world with adapters := Function.update world.adapters target (some storage) }

/-- What the adapter at an address answers: it asks its feed only for an asset with a symbol. -/
def adapterPrice (target asset : Address) : OracleResult Word :=
  match world.adapters target with
  | none => .error .callToNonContract
  | some storage =>
    match world.feeds storage.priceFeed with
    | some feed => ((storage.reading feed).getAssetPrice now asset).mapError .price
    | none =>
      if (storage.assetToSymbol asset).length > 0 then .error .callToNonContract
      else ((storage.reading (.deployed 0)).getAssetPrice now asset).mapError .price

def getAssetPrice (asset : Address) : OracleResult Word :=
  if asset = world.oracle.BASE_CURRENCY then .ok world.oracle.BASE_CURRENCY_UNIT
  else world.adapterPrice now world.oracle.adapter asset

def getAssetsPrices : List Address → OracleResult (List Word)
  | [] => .ok []
  | asset :: rest => do
    let price ← world.getAssetPrice now asset
    let prices ← getAssetsPrices rest
    pure (price :: prices)

end PriceWorld

/-- A transaction: a call with its block timestamp and its sender. -/
structure PriceTransaction where
  blockTimestamp : Word
  msgSender : Address
  call : PriceWorldCall

/-- One transaction after the other; those that revert change nothing. -/
def PriceWorld.run (world : PriceWorld) : List PriceTransaction → PriceWorld
  | [] => world
  | tx :: rest =>
    match world.exec tx.blockTimestamp tx.msgSender tx.call with
    | .ok world => run world rest
    | .error _ => run world rest

end ElectroLend
