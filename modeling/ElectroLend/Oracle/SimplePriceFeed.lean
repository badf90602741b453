import ElectroLend.Errors
import ElectroLend.Library.LastWrite

namespace ElectroLend

open Outcome LastWrite

/-- A 256-bit word. -/
abbrev Word := BitVec 256

/-- The bytes of a string of the source. -/
abbrev Bytes := List UInt8

/-- The ways the price contracts revert. -/
inductive PriceErrors
  | notAuthorized
  | arrayLengthMismatch
  | callerIsNotTheOwner
  | priceNotAvailable
  deriving DecidableEq, Repr

def PriceErrors.message : PriceErrors → String
  | notAuthorized => "Not authorized"
  | arrayLengthMismatch => "Array length mismatch"
  | callerIsNotTheOwner => "Ownable: caller is not the owner"
  | priceNotAvailable => "Price not available"

abbrev PriceResult (α : Type) := Except PriceErrors α

structure PriceData where
  price : Word
  timestamp : Word
  deriving DecidableEq

structure SimplePriceFeed where
  owner : Address
  prices : Bytes → PriceData
  updaters : Address → Bool
  stalePriceAge : Word

namespace SimplePriceFeed

/-- The constructor: the deployer owns the feed and is an updater; prices are stale after an hour. -/
def deployed (msgSender : Address) : SimplePriceFeed where
  owner := msgSender
  prices := fun _ => ⟨0, 0⟩
  updaters := fun account => account == msgSender
  stalePriceAge := 3600

variable (feed : SimplePriceFeed) (blockTimestamp : Word) (msgSender : Address)

def onlyOwner : PriceResult Unit := require (feed.owner = msgSender) .callerIsNotTheOwner

def addUpdater (updater : Address) : PriceResult SimplePriceFeed := do
  feed.onlyOwner msgSender
  pure { feed with updaters := Function.update feed.updaters updater true }

def removeUpdater (updater : Address) : PriceResult SimplePriceFeed := do
  feed.onlyOwner msgSender
  pure { feed with updaters := Function.update feed.updaters updater false }

def updatePrice (symbol : Bytes) (price : Word) : PriceResult SimplePriceFeed := do
  require (feed.updaters msgSender = true) .notAuthorized
  pure { feed with prices := Function.update feed.prices symbol ⟨price, blockTimestamp⟩ }

/-- What the loop of `updatePrices` writes. -/
def priceWrites (symbols : List Bytes) (prices : List Word) : List (Bytes × PriceData) :=
  symbols.zip (prices.map fun price => ⟨price, blockTimestamp⟩)

def updatePrices (symbols : List Bytes) (prices : List Word) : PriceResult SimplePriceFeed := do
  require (feed.updaters msgSender = true) .notAuthorized
  require (symbols.length = prices.length) .arrayLengthMismatch
  pure { feed with prices := overwrite feed.prices (priceWrites blockTimestamp symbols prices) }

/-- The price and whether it is fresh; the subtraction is unchecked. -/
def getVerifiedPrice (symbol : Bytes) : Word × Bool :=
  let data := feed.prices symbol
  (data.price, decide (blockTimestamp - data.timestamp ≤ feed.stalePriceAge))

def setStalePriceAge (newAge : Word) : PriceResult SimplePriceFeed := do
  feed.onlyOwner msgSender
  pure { feed with stalePriceAge := newAge }

end SimplePriceFeed

/-- `int256(n)`: the same bits. -/
def int256 (n : Word) : Int := n.toInt

/-- `priceFeed` is the contract that stands at the stored address. -/
structure SimplePriceFeedAdapter where
  owner : Address
  priceFeed : SimplePriceFeed
  assetToSymbol : Address → Bytes
  directPrices : Address → Word

namespace SimplePriceFeedAdapter

def deployed (owner : Address) (priceFeed : SimplePriceFeed) : SimplePriceFeedAdapter where
  owner := owner
  priceFeed := priceFeed
  assetToSymbol := fun _ => []
  directPrices := fun _ => 0

variable (adapter : SimplePriceFeedAdapter) (blockTimestamp : Word) (msgSender asset : Address)

def onlyOwner : PriceResult Unit := require (adapter.owner = msgSender) .callerIsNotTheOwner

def setAssetSymbol (symbol : Bytes) : PriceResult SimplePriceFeedAdapter := do
  adapter.onlyOwner msgSender
  pure { adapter with assetToSymbol := Function.update adapter.assetToSymbol asset symbol }

def setAssetSymbols (assets : List Address) (symbols : List Bytes) :
    PriceResult SimplePriceFeedAdapter := do
  adapter.onlyOwner msgSender
  require (assets.length = symbols.length) .arrayLengthMismatch
  pure { adapter with assetToSymbol := overwrite adapter.assetToSymbol (assets.zip symbols) }

def setDirectPrice (price : Word) : PriceResult SimplePriceFeedAdapter := do
  adapter.onlyOwner msgSender
  pure { adapter with directPrices := Function.update adapter.directPrices asset price }

def setDirectPrices (assets : List Address) (prices : List Word) :
    PriceResult SimplePriceFeedAdapter := do
  adapter.onlyOwner msgSender
  require (assets.length = prices.length) .arrayLengthMismatch
  pure { adapter with directPrices := overwrite adapter.directPrices (assets.zip prices) }

def currentPrice : Int :=
  let symbol := adapter.assetToSymbol asset
  let directPrice := adapter.directPrices asset
  let fromDirectPrice := if directPrice > 0 then int256 directPrice else 0
  if symbol.length > 0 then
    let (price, isFresh) := adapter.priceFeed.getVerifiedPrice blockTimestamp symbol
    if isFresh = true ∧ price > 0 then int256 price else fromDirectPrice
  else fromDirectPrice

def getAssetPrice : PriceResult Word :=
  let symbol := adapter.assetToSymbol asset
  let directPrice := adapter.directPrices asset
  let fromDirectPrice := if directPrice > 0 then .ok directPrice else .error .priceNotAvailable
  if symbol.length > 0 then
    let (price, isFresh) := adapter.priceFeed.getVerifiedPrice blockTimestamp symbol
    if isFresh = true ∧ price > 0 then .ok price else fromDirectPrice
  else fromDirectPrice

end SimplePriceFeedAdapter

/-- The calls of the feed and of its adapter that write what prices are made of. -/
inductive PriceCall
  | addUpdater (updater : Address)
  | removeUpdater (updater : Address)
  | updatePrice (symbol : Bytes) (price : Word)
  | updatePrices (symbols : List Bytes) (prices : List Word)
  | setStalePriceAge (newAge : Word)
  | setAssetSymbol (asset : Address) (symbol : Bytes)
  | setAssetSymbols (assets : List Address) (symbols : List Bytes)
  | setDirectPrice (asset : Address) (price : Word)
  | setDirectPrices (assets : List Address) (prices : List Word)

namespace PriceCall

/-- A call of the feed that the adapter reads. -/
def onFeed (adapter : SimplePriceFeedAdapter) (call : PriceResult SimplePriceFeed) :
    PriceResult SimplePriceFeedAdapter := do
  let priceFeed ← call
  pure { adapter with priceFeed }

def exec (blockTimestamp : Word) (msgSender : Address) (adapter : SimplePriceFeedAdapter) :
    PriceCall → PriceResult SimplePriceFeedAdapter
  | addUpdater updater => onFeed adapter (adapter.priceFeed.addUpdater msgSender updater)
  | removeUpdater updater => onFeed adapter (adapter.priceFeed.removeUpdater msgSender updater)
  | updatePrice symbol price =>
    onFeed adapter (adapter.priceFeed.updatePrice blockTimestamp msgSender symbol price)
  | updatePrices symbols prices =>
    onFeed adapter (adapter.priceFeed.updatePrices blockTimestamp msgSender symbols prices)
  | setStalePriceAge newAge => onFeed adapter (adapter.priceFeed.setStalePriceAge msgSender newAge)
  | setAssetSymbol asset symbol => adapter.setAssetSymbol msgSender asset symbol
  | setAssetSymbols assets symbols => adapter.setAssetSymbols msgSender assets symbols
  | setDirectPrice asset price => adapter.setDirectPrice msgSender asset price
  | setDirectPrices assets prices => adapter.setDirectPrices msgSender assets prices

end PriceCall

end ElectroLend
