import ElectroLend.Oracle.ElectroOracle

namespace ElectroLend

open Outcome LastWrite

variable {world world' : PriceWorld} {storage : AdapterStorage} {feed : SimplePriceFeed}
  {t now : Word} {msgSender asset : Address}

/-- What a call writes on a feed with these updaters. -/
def FeedCall.postings (t : Word) (msgSender : Address) (updaters : Address → Bool) :
    FeedCall → List (Bytes × PriceData)
  | updatePrice symbol price => if updaters msgSender = true then [(symbol, ⟨price, t⟩)] else []
  | updatePrices symbols prices =>
    if updaters msgSender = true ∧ symbols.length = prices.length then
      SimplePriceFeed.priceWrites t symbols prices
    else []
  | _ => []

/-- What a transaction posts on the feed at an address. -/
def PriceTransaction.postings (tx : PriceTransaction) (target : Address)
    (updaters : Address → Bool) : List (Bytes × PriceData) :=
  match tx.call with
  | .feed target' call =>
    if target' = target then call.postings tx.blockTimestamp tx.msgSender updaters else []
  | _ => []

def SimplePriceFeed.post (feed : SimplePriceFeed) (postings : List (Bytes × PriceData)) :
    SimplePriceFeed :=
  { feed with prices := overwrite feed.prices postings }

theorem SimplePriceFeed.post_post (feed : SimplePriceFeed) (first second : List (Bytes × PriceData)) :
    (feed.post first).post second = feed.post (first ++ second) := by
  unfold post
  rw [overwrite_append]

/-- Who does not own the feed only posts on it, as an updater. -/
theorem FeedCall.exec_posts {feed' : SimplePriceFeed} {call : FeedCall}
    (outsider : msgSender ≠ feed.owner) (h : call.exec t msgSender feed = .ok feed') :
    feed' = feed.post (call.postings t msgSender feed.updaters) := by
  cases call with
  | addUpdater updater =>
    obtain ⟨_, own, _⟩ := bind_eq_ok.mp (mapError_eq_ok.mp h)
    exact absurd (require_eq_ok.mp own).symm outsider
  | removeUpdater updater =>
    obtain ⟨_, own, _⟩ := bind_eq_ok.mp (mapError_eq_ok.mp h)
    exact absurd (require_eq_ok.mp own).symm outsider
  | updatePrice symbol price =>
    obtain ⟨_, updater, hset⟩ := bind_eq_ok.mp (mapError_eq_ok.mp h)
    obtain rfl := pure_eq_ok.mp hset
    rw [postings, if_pos (require_eq_ok.mp updater)]
    rfl
  | updatePrices symbols prices =>
    obtain ⟨_, updater, hrest⟩ := bind_eq_ok.mp (mapError_eq_ok.mp h)
    obtain ⟨_, lengths, hset⟩ := bind_eq_ok.mp hrest
    obtain rfl := pure_eq_ok.mp hset
    rw [postings, if_pos ⟨require_eq_ok.mp updater, require_eq_ok.mp lengths⟩]
    rfl
  | setStalePriceAge newAge =>
    obtain ⟨_, own, _⟩ := bind_eq_ok.mp (mapError_eq_ok.mp h)
    exact absurd (require_eq_ok.mp own).symm outsider
  | renounceOwnership =>
    obtain ⟨_, renounced, _⟩ := bind_eq_ok.mp h
    exact absurd (Ownable.renounceOwnership_owner renounced) outsider
  | transferOwnership newOwner =>
    obtain ⟨_, transferred, _⟩ := bind_eq_ok.mp h
    exact absurd (Ownable.transferOwnership_owner transferred) outsider

theorem FeedCall.postings_of_error {call : FeedCall} {e : OracleErrors}
    (h : call.exec t msgSender feed = .error e) : call.postings t msgSender feed.updaters = [] := by
  cases call with
  | updatePrice symbol price =>
    refine if_neg fun updater => ?_
    rw [exec, SimplePriceFeed.updatePrice, require_of updater] at h
    cases h
  | updatePrices symbols prices =>
    refine if_neg fun both => ?_
    rw [exec, SimplePriceFeed.updatePrices, require_of both.1, require_of both.2] at h
    cases h
  | _ => rfl

/-- The oracle is in use with this adapter and this feed. -/
structure PriceWorld.Wired (world : PriceWorld) (storage : AdapterStorage)
    (feed : SimplePriceFeed) : Prop where
  initialized : world.oracle.initialized = true
  adapter : world.adapters world.oracle.adapter = some storage
  feed : world.feeds storage.priceFeed = some feed

/-- The owners of the three contracts that a price is read from. -/
def PriceWorld.owners (world : PriceWorld) (storage : AdapterStorage) (feed : SimplePriceFeed) :
    List Address :=
  [world.oracle.owner, storage.owner, feed.owner]

theorem AdapterStorage.set_owner {storage' : AdapterStorage}
    {setter : SimplePriceFeedAdapter → PriceResult SimplePriceFeedAdapter}
    (guarded : ∀ adapter written, setter adapter = .ok written → adapter.owner = msgSender)
    (h : storage.set setter = .ok storage') : msgSender = storage.owner := by
  obtain ⟨written, hset, _⟩ := bind_eq_ok.mp h
  exact (guarded _ _ (mapError_eq_ok.mp hset)).symm

theorem AdapterCall.exec_owner {storage' : AdapterStorage} {call : AdapterCall}
    (h : call.exec msgSender storage = .ok storage') : msgSender = storage.owner := by
  cases call with
  | setPriceFeed priceFeed =>
    simp only [exec, Ownable.onlyOwner, bind_eq_ok, require_eq_ok] at h
    obtain ⟨_, own, _⟩ := h
    exact own.symm
  | setAssetSymbol asset symbol =>
    simp only [exec] at h
    refine AdapterStorage.set_owner (fun adapter written hset => ?_) h
    obtain ⟨_, own, _⟩ := bind_eq_ok.mp hset
    exact require_eq_ok.mp own
  | setAssetSymbols assets symbols =>
    simp only [exec] at h
    refine AdapterStorage.set_owner (fun adapter written hset => ?_) h
    obtain ⟨_, own, _⟩ := bind_eq_ok.mp hset
    exact require_eq_ok.mp own
  | setDirectPrice asset price =>
    simp only [exec] at h
    refine AdapterStorage.set_owner (fun adapter written hset => ?_) h
    obtain ⟨_, own, _⟩ := bind_eq_ok.mp hset
    exact require_eq_ok.mp own
  | setDirectPrices assets prices =>
    simp only [exec] at h
    refine AdapterStorage.set_owner (fun adapter written hset => ?_) h
    obtain ⟨_, own, _⟩ := bind_eq_ok.mp hset
    exact require_eq_ok.mp own
  | renounceOwnership =>
    obtain ⟨_, renounced, _⟩ := bind_eq_ok.mp h
    exact Ownable.renounceOwnership_owner renounced
  | transferOwnership newOwner =>
    obtain ⟨_, transferred, _⟩ := bind_eq_ok.mp h
    exact Ownable.transferOwnership_owner transferred

/-- An oracle in use is changed by its owner only. -/
theorem OracleCall.exec_owner {oracle oracle' : ElectroOracle} {call : OracleCall}
    (initialized : oracle.initialized = true) (h : call.exec msgSender oracle = .ok oracle') :
    msgSender = oracle.owner := by
  cases call with
  | initializer adapter =>
    simp only [exec, bind_eq_ok, require_eq_ok, initialized] at h
    obtain ⟨_, fresh, _⟩ := h
    cases fresh
  | setAdapter adapter =>
    simp only [exec, Ownable.onlyOwner, bind_eq_ok, require_eq_ok] at h
    obtain ⟨_, own, _⟩ := h
    exact own.symm
  | renounceOwnership =>
    obtain ⟨_, renounced, _⟩ := bind_eq_ok.mp h
    exact Ownable.renounceOwnership_owner renounced
  | transferOwnership newOwner =>
    obtain ⟨_, transferred, _⟩ := bind_eq_ok.mp h
    exact Ownable.transferOwnership_owner transferred

namespace PriceWorld

variable {tx : PriceTransaction}

theorem exec_wired (wired : world.Wired storage feed)
    (outsider : tx.msgSender ∉ world.owners storage feed)
    (h : world.exec tx.blockTimestamp tx.msgSender tx.call = .ok world') :
    world'.oracle = world.oracle ∧
      world'.Wired storage (feed.post (tx.postings storage.priceFeed feed.updaters)) := by
  simp only [owners, List.mem_cons, List.not_mem_nil, or_false, not_or] at outsider
  obtain ⟨notOracle, notAdapter, notFeed⟩ := outsider
  unfold PriceTransaction.postings
  cases hcall : tx.call with
  | feed target call =>
    rw [hcall] at h
    by_cases same : target = storage.priceFeed
    · subst same
      simp only [exec, wired.feed, bind_eq_ok, pure_eq_ok] at h
      obtain ⟨posted, hexec, rfl⟩ := h
      obtain rfl := FeedCall.exec_posts notFeed hexec
      dsimp only
      rw [if_pos rfl]
      exact ⟨rfl, wired.initialized, wired.adapter, Function.update_self ..⟩
    · simp only [exec] at h
      cases hfeed : world.feeds target with
      | none =>
        rw [hfeed] at h
        cases h
      | some other =>
        simp only [hfeed, bind_eq_ok, pure_eq_ok] at h
        obtain ⟨_, _, rfl⟩ := h
        dsimp only
        rw [if_neg same]
        refine ⟨rfl, wired.initialized, wired.adapter, ?_⟩
        exact (Function.update_of_ne (Ne.symm same) _ _).trans wired.feed
  | adapter target call =>
    rw [hcall] at h
    by_cases same : target = world.oracle.adapter
    · subst same
      simp only [exec, wired.adapter, bind_eq_ok, pure_eq_ok] at h
      obtain ⟨_, hexec, _⟩ := h
      exact absurd (AdapterCall.exec_owner hexec) notAdapter
    · simp only [exec] at h
      cases hstorage : world.adapters target with
      | none =>
        rw [hstorage] at h
        cases h
      | some other =>
        simp only [hstorage, bind_eq_ok, pure_eq_ok] at h
        obtain ⟨_, _, rfl⟩ := h
        refine ⟨rfl, wired.initialized, ?_, wired.feed⟩
        exact (Function.update_of_ne (Ne.symm same) _ _).trans wired.adapter
  | oracle call =>
    rw [hcall] at h
    simp only [exec, bind_eq_ok, pure_eq_ok] at h
    obtain ⟨_, hexec, _⟩ := h
    exact absurd (OracleCall.exec_owner wired.initialized hexec) notOracle
  | deployFeed target =>
    rw [hcall] at h
    simp only [exec, unused, bind_eq_ok, pure_eq_ok, require_eq_ok, Bool.and_eq_true] at h
    obtain ⟨_, ⟨free, _⟩, rfl⟩ := h
    have apart : storage.priceFeed ≠ target := by
      rintro rfl
      rw [wired.feed] at free
      cases free
    exact ⟨rfl, wired.initialized, wired.adapter,
      (Function.update_of_ne apart _ _).trans wired.feed⟩
  | deployAdapter target priceFeed owner =>
    rw [hcall] at h
    simp only [exec, unused, bind_eq_ok, pure_eq_ok, require_eq_ok, Bool.and_eq_true] at h
    obtain ⟨_, ⟨_, free⟩, _, _, rfl⟩ := h
    have apart : world.oracle.adapter ≠ target := by
      rintro rfl
      rw [wired.adapter] at free
      cases free
    exact ⟨rfl, wired.initialized, (Function.update_of_ne apart _ _).trans wired.adapter,
      wired.feed⟩

theorem postings_of_error {e : OracleErrors} (wired : world.Wired storage feed)
    (h : world.exec tx.blockTimestamp tx.msgSender tx.call = .error e) :
    tx.postings storage.priceFeed feed.updaters = [] := by
  unfold PriceTransaction.postings
  cases hcall : tx.call with
  | feed target call =>
    refine ite_eq_right_iff.mpr ?_
    rintro rfl
    rw [hcall] at h
    simp only [exec, wired.feed] at h
    cases hexec : call.exec tx.blockTimestamp tx.msgSender feed with
    | ok posted =>
      rw [hexec] at h
      cases h
    | error e => exact FeedCall.postings_of_error hexec
  | _ => rfl

/-- What a run posts on the feed. -/
def posted (target : Address) (updaters : Address → Bool) (txs : List PriceTransaction) :
    List (Bytes × PriceData) :=
  txs.flatMap fun tx => tx.postings target updaters

theorem run_wired {txs : List PriceTransaction} (wired : world.Wired storage feed)
    (outsiders : ∀ tx ∈ txs, tx.msgSender ∉ world.owners storage feed) :
    (world.run txs).oracle = world.oracle ∧
      (world.run txs).Wired storage (feed.post (posted storage.priceFeed feed.updaters txs)) := by
  induction txs generalizing world feed with
  | nil => exact ⟨rfl, wired⟩
  | cons tx rest ih =>
    have outsider := outsiders tx List.mem_cons_self
    have others : ∀ tx ∈ rest, tx.msgSender ∉ world.owners storage feed :=
      fun tx htx => outsiders tx (.tail _ htx)
    unfold run
    cases hexec : world.exec tx.blockTimestamp tx.msgSender tx.call with
    | error e =>
      obtain ⟨oracle, wired'⟩ := ih wired others
      refine ⟨oracle, ?_⟩
      rw [posted, List.flatMap_cons, postings_of_error wired hexec, List.nil_append]
      exact wired'
    | ok next =>
      obtain ⟨same, wired'⟩ := exec_wired wired outsider hexec
      have others' : ∀ tx' ∈ rest, tx'.msgSender ∉
          next.owners storage (feed.post (tx.postings storage.priceFeed feed.updaters)) := by
        intro tx' htx'
        rw [owners, same]
        exact others tx' htx'
      obtain ⟨oracle, wired''⟩ := ih wired' others'
      refine ⟨oracle.trans same, ?_⟩
      rw [posted, List.flatMap_cons, ← SimplePriceFeed.post_post]
      exact wired''

end PriceWorld

/-- The symbols that a transaction would update on the feed at an address. -/
def PriceTransaction.symbols (tx : PriceTransaction) (target : Address) : List Bytes :=
  match tx.call with
  | .feed target' (.updatePrice symbol _) => if target' = target then [symbol] else []
  | .feed target' (.updatePrices symbols _) => if target' = target then symbols else []
  | _ => []

theorem PriceTransaction.postings_symbol {tx : PriceTransaction} {target : Address}
    {updaters : Address → Bool} {posting : Bytes × PriceData}
    (h : posting ∈ tx.postings target updaters) :
    updaters tx.msgSender = true ∧ posting.1 ∈ tx.symbols target := by
  obtain ⟨t, msgSender, call⟩ := tx
  cases call with
  | feed target' call =>
    obtain ⟨here, hcall⟩ := List.mem_ite_nil_right.mp h
    cases call with
    | updatePrice symbol price =>
      obtain ⟨updater, hposting⟩ := List.mem_ite_nil_right.mp hcall
      rw [List.mem_singleton.mp hposting]
      exact ⟨updater, List.mem_ite_nil_right.mpr ⟨here, List.mem_singleton_self _⟩⟩
    | updatePrices names prices =>
      obtain ⟨⟨updater, _⟩, hposting⟩ := List.mem_ite_nil_right.mp hcall
      have named : posting.1 ∈ names := (List.of_mem_zip (b := posting.2) hposting).1
      exact ⟨updater, List.mem_ite_nil_right.mpr ⟨here, named⟩⟩
    | _ => cases hcall
  | _ => cases h

namespace PriceWorld

/-- No updater names the symbol of the asset. -/
def Unposted (storage : AdapterStorage) (feed : SimplePriceFeed) (txs : List PriceTransaction)
    (asset : Address) : Prop :=
  ∀ tx ∈ txs, feed.updaters tx.msgSender = true →
    storage.assetToSymbol asset ∉ tx.symbols storage.priceFeed

instance (storage : AdapterStorage) (feed : SimplePriceFeed) (txs : List PriceTransaction)
    (asset : Address) : Decidable (Unposted storage feed txs asset) :=
  inferInstanceAs (Decidable (∀ tx ∈ txs, feed.updaters tx.msgSender = true →
    storage.assetToSymbol asset ∉ tx.symbols storage.priceFeed))

/-- The adapter reads of its feed what stands under the symbol, and the age that is too old. -/
theorem getAssetPrice_post {postings : List (Bytes × PriceData)}
    (unposted : ∀ posting ∈ postings, posting.1 ≠ storage.assetToSymbol asset) :
    (storage.reading (feed.post postings)).getAssetPrice now asset =
      (storage.reading feed).getAssetPrice now asset := by
  have kept : (feed.post postings).prices (storage.assetToSymbol asset) =
      feed.prices (storage.assetToSymbol asset) := by
    unfold SimplePriceFeed.post
    dsimp only
    rw [overwrite_apply]
    cases hlast : lastWrite postings (storage.assetToSymbol asset) with
    | none => rfl
    | some data => exact absurd rfl (unposted _ (lastWrite_mem hlast))
  have same : (feed.post postings).getVerifiedPrice now (storage.assetToSymbol asset) =
      feed.getVerifiedPrice now (storage.assetToSymbol asset) := by
    unfold SimplePriceFeed.getVerifiedPrice
    rw [kept]
    rfl
  unfold SimplePriceFeedAdapter.getAssetPrice AdapterStorage.reading
  dsimp only
  rw [same]

theorem getAssetPrice_run {txs : List PriceTransaction} (wired : world.Wired storage feed)
    (outsiders : ∀ tx ∈ txs, tx.msgSender ∉ world.owners storage feed)
    (unposted : Unposted storage feed txs asset) :
    (world.run txs).getAssetPrice now asset = world.getAssetPrice now asset := by
  obtain ⟨oracle, wired'⟩ := run_wired wired outsiders
  have adapter := wired'.adapter
  rw [oracle] at adapter
  have others : ∀ posting ∈ posted storage.priceFeed feed.updaters txs,
      posting.1 ≠ storage.assetToSymbol asset := by
    intro posting hposting same
    obtain ⟨tx, htx, hposting⟩ := List.mem_flatMap.mp hposting
    obtain ⟨updater, named⟩ := PriceTransaction.postings_symbol hposting
    exact unposted tx htx updater (same ▸ named)
  unfold getAssetPrice adapterPrice
  rw [oracle, adapter, wired.adapter]
  dsimp only
  rw [wired'.feed, wired.feed]
  dsimp only
  rw [getAssetPrice_post others]

theorem getAssetsPrices_congr {assets : List Address}
    (same : ∀ asset ∈ assets, world'.getAssetPrice now asset = world.getAssetPrice now asset) :
    world'.getAssetsPrices now assets = world.getAssetsPrices now assets := by
  induction assets with
  | nil => rfl
  | cons asset rest ih =>
    unfold getAssetsPrices
    rw [same asset List.mem_cons_self, ih fun a ha => same a (.tail _ ha)]

end PriceWorld

/-- The feed at 50 belongs to 1 and is updated by 1 and 2, the adapter at 60 to 3, the oracle to 4. -/
def keptFeed : SimplePriceFeed where
  owner := 1
  prices := fun symbol => if symbol = [69] then ⟨2000, 10⟩ else ⟨0, 0⟩
  updaters := fun account => account == 1 || account == 2
  stalePriceAge := 3600

def keptAdapter : AdapterStorage where
  owner := 3
  priceFeed := 50
  assetToSymbol := fun asset => if asset = 100 then [69] else if asset = 200 then [66] else []
  directPrices := fun asset => if asset = 300 then 5 else 0

def keptWorld : PriceWorld where
  feeds := fun target => if target = 50 then some keptFeed else none
  adapters := fun target => if target = 60 then some keptAdapter else none
  oracle := ⟨4, 0, 100000000, 60, true⟩

/-- The updater posts another symbol, and 9 tries what it can. -/
def keptRun : List PriceTransaction :=
  [⟨20, 2, .feed 50 (.updatePrice [66] 30000)⟩, ⟨21, 9, .feed 50 (.updatePrice [69] 1)⟩,
    ⟨22, 9, .deployFeed 70⟩, ⟨23, 9, .adapter 60 (.setPriceFeed 70)⟩,
    ⟨24, 9, .oracle (.initializer 70)⟩]

end ElectroLend
