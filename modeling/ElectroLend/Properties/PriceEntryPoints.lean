import ElectroLend.Oracle.SimplePriceFeed
import Mathlib.Data.BitVec

namespace ElectroLend

open Outcome LastWrite

/-- The writes of successful calls, the first ones first. -/
structure PriceHistory where
  prices : List (Bytes × PriceData)
  stalePriceAges : List Word
  symbols : List (Address × Bytes)
  directPrices : List (Address × Word)

namespace PriceHistory

def empty : PriceHistory := ⟨[], [], [], []⟩

def append (first second : PriceHistory) : PriceHistory where
  prices := first.prices ++ second.prices
  stalePriceAges := first.stalePriceAges ++ second.stalePriceAges
  symbols := first.symbols ++ second.symbols
  directPrices := first.directPrices ++ second.directPrices

variable (history : PriceHistory) (now : Word) (asset : Address)

/-- The symbol set last, empty when none was. -/
def symbolOf : Bytes := (lastWrite history.symbols asset).getD []

/-- The age set last, an hour when none was. -/
def stalePriceAge : Word := history.stalePriceAges.getLast?.getD 3600

/-- The feed's price: there is a symbol, its last update is not too old, and the price is not 0. -/
def feedPrice : Option Word :=
  if history.symbolOf asset = [] then none
  else match lastWrite history.prices (history.symbolOf asset) with
    | some data =>
      if now.toNat - data.timestamp.toNat ≤ history.stalePriceAge.toNat ∧ data.price ≠ 0 then
        some data.price
      else none
    | none => none

def directPriceOf : Word := (lastWrite history.directPrices asset).getD 0

/-- The price of an asset: the feed's, else the direct one unless it is 0. -/
def quote : Option Word :=
  match history.feedPrice now asset with
  | some price => some price
  | none => if history.directPriceOf asset = 0 then none else some (history.directPriceOf asset)

/-- The feed's price, or the direct price where the feed has none, is a positive `int256`. -/
def FitsInt256 : Prop :=
  ((history.feedPrice now asset).getD (history.directPriceOf asset)).toNat < 2 ^ 255

instance : Decidable (history.FitsInt256 now asset) := inferInstanceAs (Decidable (_ < _))

end PriceHistory

/-- What a call writes when it succeeds. -/
def PriceCall.writes (blockTimestamp : Word) : PriceCall → PriceHistory
  | addUpdater _ | removeUpdater _ => .empty
  | updatePrice symbol price => { PriceHistory.empty with prices := [(symbol, ⟨price, blockTimestamp⟩)] }
  | updatePrices symbols prices =>
    { PriceHistory.empty with
      prices := SimplePriceFeed.priceWrites blockTimestamp symbols prices }
  | setStalePriceAge newAge => { PriceHistory.empty with stalePriceAges := [newAge] }
  | setAssetSymbol asset symbol => { PriceHistory.empty with symbols := [(asset, symbol)] }
  | setAssetSymbols assets symbols => { PriceHistory.empty with symbols := assets.zip symbols }
  | setDirectPrice asset price => { PriceHistory.empty with directPrices := [(asset, price)] }
  | setDirectPrices assets prices => { PriceHistory.empty with directPrices := assets.zip prices }

/-- Calls in the order of their block timestamps, from the deployment of both contracts. -/
inductive PriceRun : Word → PriceHistory → SimplePriceFeedAdapter → Prop
  | deploy (t : Word) (deployer owner : Address) :
      PriceRun t .empty (.deployed owner (.deployed deployer))
  | call {t t' : Word} {history : PriceHistory} {adapter adapter' : SimplePriceFeedAdapter}
      (before : PriceRun t history adapter) (later : t ≤ t') (msgSender : Address)
      (call : PriceCall) (success : call.exec t' msgSender adapter = .ok adapter') :
      PriceRun t' (history.append (call.writes t')) adapter'

/-- The storage of both contracts, from the history, whose timestamps are in the past. -/
structure Replays (t : Word) (history : PriceHistory) (adapter : SimplePriceFeedAdapter) : Prop where
  prices : adapter.priceFeed.prices = overwrite (fun _ => ⟨0, 0⟩) history.prices
  stalePriceAge : adapter.priceFeed.stalePriceAge = history.stalePriceAge
  symbols : adapter.assetToSymbol = overwrite (fun _ => []) history.symbols
  directPrices : adapter.directPrices = overwrite (fun _ => 0) history.directPrices
  past : ∀ write ∈ history.prices, write.2.timestamp ≤ t

variable {t t' now : Word} {history : PriceHistory} {adapter adapter' : SimplePriceFeedAdapter}
  {asset : Address} {call : PriceCall} {msgSender : Address}

/-- What one call changes is what it writes. -/
theorem PriceCall.exec_writes (h : call.exec t msgSender adapter = .ok adapter') :
    adapter'.priceFeed.prices = overwrite adapter.priceFeed.prices (call.writes t).prices ∧
      adapter'.priceFeed.stalePriceAge =
        (call.writes t).stalePriceAges.getLast?.getD adapter.priceFeed.stalePriceAge ∧
      adapter'.assetToSymbol = overwrite adapter.assetToSymbol (call.writes t).symbols ∧
      adapter'.directPrices = overwrite adapter.directPrices (call.writes t).directPrices := by
  cases call with
  | addUpdater updater =>
    simp only [exec, onFeed, SimplePriceFeed.addUpdater, bind_eq_ok, pure_eq_ok] at h
    obtain ⟨_, ⟨_, _, rfl⟩, rfl⟩ := h
    exact ⟨rfl, rfl, rfl, rfl⟩
  | removeUpdater updater =>
    simp only [exec, onFeed, SimplePriceFeed.removeUpdater, bind_eq_ok, pure_eq_ok] at h
    obtain ⟨_, ⟨_, _, rfl⟩, rfl⟩ := h
    exact ⟨rfl, rfl, rfl, rfl⟩
  | updatePrice symbol price =>
    simp only [exec, onFeed, SimplePriceFeed.updatePrice, bind_eq_ok, pure_eq_ok] at h
    obtain ⟨_, ⟨_, _, rfl⟩, rfl⟩ := h
    exact ⟨rfl, rfl, rfl, rfl⟩
  | updatePrices symbols prices =>
    simp only [exec, onFeed, SimplePriceFeed.updatePrices, bind_eq_ok, pure_eq_ok] at h
    obtain ⟨_, ⟨_, _, _, _, rfl⟩, rfl⟩ := h
    exact ⟨rfl, rfl, rfl, rfl⟩
  | setStalePriceAge newAge =>
    simp only [exec, onFeed, SimplePriceFeed.setStalePriceAge, bind_eq_ok, pure_eq_ok] at h
    obtain ⟨_, ⟨_, _, rfl⟩, rfl⟩ := h
    exact ⟨rfl, rfl, rfl, rfl⟩
  | setAssetSymbol asset symbol =>
    simp only [exec, SimplePriceFeedAdapter.setAssetSymbol, bind_eq_ok, pure_eq_ok] at h
    obtain ⟨_, _, rfl⟩ := h
    exact ⟨rfl, rfl, rfl, rfl⟩
  | setAssetSymbols assets symbols =>
    simp only [exec, SimplePriceFeedAdapter.setAssetSymbols, bind_eq_ok, pure_eq_ok] at h
    obtain ⟨_, _, _, _, rfl⟩ := h
    exact ⟨rfl, rfl, rfl, rfl⟩
  | setDirectPrice asset price =>
    simp only [exec, SimplePriceFeedAdapter.setDirectPrice, bind_eq_ok, pure_eq_ok] at h
    obtain ⟨_, _, rfl⟩ := h
    exact ⟨rfl, rfl, rfl, rfl⟩
  | setDirectPrices assets prices =>
    simp only [exec, SimplePriceFeedAdapter.setDirectPrices, bind_eq_ok, pure_eq_ok] at h
    obtain ⟨_, _, _, _, rfl⟩ := h
    exact ⟨rfl, rfl, rfl, rfl⟩

theorem PriceCall.writes_timestamp {write : Bytes × PriceData}
    (h : write ∈ (call.writes t).prices) : write.2.timestamp = t := by
  cases call with
  | updatePrice symbol price =>
    rw [List.mem_singleton.mp h]
  | updatePrices symbols prices =>
    obtain ⟨_, hdata⟩ := List.of_mem_zip (show (write.1, write.2) ∈ _ from h)
    obtain ⟨price, _, hprice⟩ := List.mem_map.mp hdata
    rw [← hprice]
  | _ => cases h

theorem PriceRun.replays (run : PriceRun t history adapter) : Replays t history adapter := by
  induction run with
  | deploy t deployer owner => exact ⟨rfl, rfl, rfl, rfl, fun _ h => by cases h⟩
  | @call t t' history adapter adapter' _ later msgSender call success ih =>
    obtain ⟨hprices, hage, hsymbols, hdirect⟩ := PriceCall.exec_writes success
    refine ⟨?_, ?_, ?_, ?_, ?_⟩
    · rw [hprices, ih.prices, ← overwrite_append]
      rfl
    · rw [hage, ih.stalePriceAge]
      simp only [PriceHistory.stalePriceAge, PriceHistory.append, List.getLast?_append]
      cases (call.writes t').stalePriceAges.getLast? with
      | some age => rfl
      | none => rfl
    · rw [hsymbols, ih.symbols, ← overwrite_append]
      rfl
    · rw [hdirect, ih.directPrices, ← overwrite_append]
      rfl
    · intro write hwrite
      rcases List.mem_append.mp hwrite with hbefore | hnew
      · exact BitVec.le_trans (ih.past write hbefore) later
      · rw [PriceCall.writes_timestamp hnew]
        exact BitVec.le_refl _

theorem Replays.directPrice (h : Replays t history adapter) :
    adapter.directPrices asset = history.directPriceOf asset := by
  rw [h.directPrices, overwrite_apply]
  rfl

/-- What both entry points find in the feed is the history's feed price. -/
theorem Replays.feed (h : Replays t history adapter) (ht : t ≤ now) {price : Word} {isFresh : Bool}
    (verified : adapter.priceFeed.getVerifiedPrice now (adapter.assetToSymbol asset) =
      (price, isFresh)) :
    (history.feedPrice now asset = some price ∧ (adapter.assetToSymbol asset).length > 0 ∧
        isFresh = true ∧ price > 0) ∨
      (history.feedPrice now asset = none ∧
        ((adapter.assetToSymbol asset).length > 0 → ¬(isFresh = true ∧ price > 0))) := by
  have symbol : adapter.assetToSymbol asset = history.symbolOf asset := by
    rw [h.symbols, overwrite_apply]
    rfl
  rw [symbol] at verified ⊢
  by_cases hempty : history.symbolOf asset = []
  · refine .inr ⟨by rw [PriceHistory.feedPrice, if_pos hempty], ?_⟩
    intro hlength
    rw [hempty] at hlength
    exact absurd hlength (Nat.lt_irrefl 0)
  have hlength : (history.symbolOf asset).length > 0 := List.length_pos_iff.mpr hempty
  have stored : adapter.priceFeed.prices (history.symbolOf asset) =
      (lastWrite history.prices (history.symbolOf asset)).getD ⟨0, 0⟩ := by
    rw [h.prices, overwrite_apply]
  cases hlast : lastWrite history.prices (history.symbolOf asset) with
  | none =>
    -- a symbol that was never updated has the price 0
    refine .inr ⟨by rw [PriceHistory.feedPrice, if_neg hempty, hlast], ?_⟩
    intro _ hcounts
    rw [hlast] at stored
    simp only [SimplePriceFeed.getVerifiedPrice, stored, Prod.mk.injEq] at verified
    obtain ⟨rfl, _⟩ := verified
    exact absurd hcounts.2 (BitVec.lt_irrefl _)
  | some data =>
    rw [hlast] at stored
    have written : data.timestamp ≤ now :=
      BitVec.le_trans (h.past _ (lastWrite_mem hlast)) ht
    have age : (now - data.timestamp).toNat = now.toNat - data.timestamp.toNat :=
      BitVec.toNat_sub_of_le written
    simp only [SimplePriceFeed.getVerifiedPrice, stored, h.stalePriceAge, Option.getD_some,
      BitVec.le_def, age, Prod.mk.injEq] at verified
    obtain ⟨rfl, rfl⟩ := verified
    rw [PriceHistory.feedPrice, if_neg hempty, hlast]
    by_cases hfresh : now.toNat - data.timestamp.toNat ≤ history.stalePriceAge.toNat ∧
        data.price ≠ 0
    · obtain ⟨hage, hprice⟩ := hfresh
      have positive : data.price > 0 := (BitVec.pos_iff_ne_zero _).mpr hprice
      exact .inl ⟨if_pos ⟨hage, hprice⟩, hlength, decide_eq_true hage, positive⟩
    · refine .inr ⟨if_neg hfresh, ?_⟩
      intro _ hcounts
      exact hfresh ⟨of_decide_eq_true hcounts.1, (BitVec.pos_iff_ne_zero _).mp hcounts.2⟩

theorem Replays.answer {β : Type} (h : Replays t history adapter) (ht : t ≤ now)
    (answer : Word → β) (absent : β) :
    (let fromDirectPrice := if adapter.directPrices asset > 0 then
        answer (adapter.directPrices asset) else absent
      if (adapter.assetToSymbol asset).length > 0 then
        let (price, isFresh) :=
          adapter.priceFeed.getVerifiedPrice now (adapter.assetToSymbol asset)
        if isFresh = true ∧ price > 0 then answer price else fromDirectPrice
      else fromDirectPrice) = match history.quote now asset with
        | some price => answer price
        | none => absent := by
  cases verified : adapter.priceFeed.getVerifiedPrice now (adapter.assetToSymbol asset) with
  | mk price isFresh =>
    simp only [PriceHistory.quote, h.directPrice]
    rcases h.feed ht verified with ⟨hquote, hlength, hfresh, hpositive⟩ | ⟨hnone, hunused⟩
    · rw [hquote, if_pos hlength, if_pos ⟨hfresh, hpositive⟩]
    · have direct : (if history.directPriceOf asset > 0 then
            answer (history.directPriceOf asset) else absent) =
          match (if history.directPriceOf asset = 0 then none
            else some (history.directPriceOf asset)) with
          | some price => answer price
          | none => absent := by
        by_cases hz : history.directPriceOf asset = 0
        · rw [if_pos hz, hz]
          rfl
        · have positive : history.directPriceOf asset > 0 := (BitVec.pos_iff_ne_zero _).mpr hz
          rw [if_neg hz, if_pos positive]
      rw [hnone, ← direct]
      by_cases hlength : (adapter.assetToSymbol asset).length > 0
      · rw [if_pos hlength, if_neg (hunused hlength)]
      · rw [if_neg hlength]

theorem Replays.getAssetPrice (h : Replays t history adapter) (ht : t ≤ now) :
    adapter.getAssetPrice now asset = match history.quote now asset with
      | some price => .ok price
      | none => .error .priceNotAvailable :=
  h.answer ht Except.ok (.error PriceErrors.priceNotAvailable)

theorem Replays.currentPrice (h : Replays t history adapter) (ht : t ≤ now) :
    adapter.currentPrice now asset = match history.quote now asset with
      | some price => int256 price
      | none => 0 :=
  h.answer ht int256 0

theorem PriceHistory.quote_ne_zero {price : Word} (h : history.quote now asset = some price) :
    price ≠ 0 := by
  unfold quote at h
  split at h
  · rename_i found hfeed
    cases Option.some.inj h
    unfold feedPrice at hfeed
    split at hfeed
    · cases hfeed
    · split at hfeed
      · split at hfeed
        · rename_i hfresh
          cases Option.some.inj hfeed
          exact hfresh.2
        · cases hfeed
      · cases hfeed
  · split at h
    · cases h
    · rename_i hdirect
      cases Option.some.inj h
      exact hdirect

theorem PriceHistory.fitsInt256_iff :
    history.FitsInt256 now asset ↔
      ∀ price, history.quote now asset = some price → price.toNat < 2 ^ 255 := by
  unfold FitsInt256 quote
  cases history.feedPrice now asset with
  | some price => simp
  | none =>
    by_cases hz : history.directPriceOf asset = 0
    · simp [hz]
    · rw [if_neg hz]
      simp

theorem int256_eq_iff {price : Word} (hne : price ≠ 0) :
    (int256 price = price.toNat ∧ 0 < int256 price) ↔ price.toNat < 2 ^ 255 := by
  have positive : 0 < price.toNat := BitVec.toNat_pos_of_ne_zero hne
  have value : int256 price =
      if 2 * price.toNat < 2 ^ 256 then (price.toNat : Int) else price.toNat - (2 ^ 256 : Nat) :=
    BitVec.toInt_eq_toNat_cond price
  rw [value]
  split
  · omega
  · omega

/-- `getAssetPrice` answers the price or reverts without one, and `currentPrice` answers the same
price as a positive number, or 0 exactly where `getAssetPrice` reverts. -/
structure SimplePriceFeedAdapter.EntryPointsAgree (adapter : SimplePriceFeedAdapter) (now : Word)
    (asset : Address) (quote : Option Word) : Prop where
  getAssetPrice : adapter.getAssetPrice now asset = match quote with
    | some price => .ok price
    | none => .error .priceNotAvailable
  same : ∀ price, adapter.getAssetPrice now asset = .ok price →
    adapter.currentPrice now asset = price.toNat ∧ 0 < adapter.currentPrice now asset
  zero : adapter.currentPrice now asset = 0 ↔
    ∃ error, adapter.getAssetPrice now asset = .error error

/-- After any history, at any time and for any asset, the entry points agree exactly when the price
that the history gives the asset is below 2^255. -/
theorem entry_points_agree_iff (run : PriceRun t history adapter) (ht : t ≤ now) :
    adapter.EntryPointsAgree now asset (history.quote now asset) ↔
      history.FitsInt256 now asset := by
  have answered : adapter.getAssetPrice now asset = match history.quote now asset with
      | some price => .ok price
      | none => .error .priceNotAvailable := run.replays.getAssetPrice ht
  have signed : adapter.currentPrice now asset = match history.quote now asset with
      | some price => int256 price
      | none => 0 := run.replays.currentPrice ht
  rw [PriceHistory.fitsInt256_iff]
  cases hquote : history.quote now asset with
  | none =>
    rw [hquote] at answered signed
    constructor
    · intro _ price hprice
      cases hprice
    · intro _
      refine ⟨answered, ?_, ?_⟩
      · intro price hprice
        rw [answered] at hprice
        cases hprice
      · exact ⟨fun _ => ⟨_, answered⟩, fun _ => signed⟩
  | some price =>
    have hne := PriceHistory.quote_ne_zero hquote
    rw [hquote] at answered signed
    constructor
    · intro agree price' hprice
      cases Option.some.inj hprice
      have same := agree.same price answered
      rw [signed] at same
      exact (int256_eq_iff hne).mp same
    · intro fits
      have same := (int256_eq_iff hne).mpr (fits price rfl)
      refine ⟨answered, ?_, ?_⟩
      · intro price' hprice
        rw [answered] at hprice
        cases Except.ok.inj hprice
        rw [signed]
        exact same
      · rw [signed, answered]
        constructor
        · intro hzero
          have positive := same.2
          rw [show int256 price = 0 from hzero] at positive
          exact absurd positive (Int.lt_irrefl 0)
        · intro herror
          obtain ⟨_, herror⟩ := herror
          cases herror

/-- The price of `[1]` is updated twice, and asset 1 gets its symbol: the entry points agree. -/
theorem updated_price_agrees :
    ∃ history adapter, PriceRun 1000 history adapter ∧
      adapter.getAssetPrice 2000 1 = .ok 7 ∧
      adapter.EntryPointsAgree 2000 1 (history.quote 2000 1) := by
  have script : succeedsWith (do
      let named ← PriceCall.exec 900 5 (.deployed 5 (.deployed 4)) (.setAssetSymbols [1, 2] [[1], [2]])
      PriceCall.exec 1000 4 named (.updatePrices [[1], [2], [1]] [8, 9, 7]))
      (fun adapter => decide (adapter.getAssetPrice 2000 1 = .ok 7)) = true := by decide +kernel
  obtain ⟨adapter, hscript, hprice⟩ := succeedsWith_iff.mp script
  obtain ⟨named, hname, hupdate⟩ := bind_eq_ok.mp hscript
  have run : PriceRun 1000 _ adapter :=
    ((PriceRun.deploy 0 4 5).call (by decide) 5 _ hname).call (by decide) 4 _ hupdate
  have fits : (((PriceHistory.empty.append (PriceCall.writes 900
      (.setAssetSymbols [1, 2] [[1], [2]]))).append (PriceCall.writes 1000
        (.updatePrices [[1], [2], [1]] [8, 9, 7])))).FitsInt256 2000 1 := by decide +kernel
  exact ⟨_, adapter, run, of_decide_eq_true hprice, (entry_points_agree_iff run (by decide)).mpr fits⟩

/-- The direct price of asset 1 is set to 2^255: one entry point answers it, the other a negative
price. -/
theorem huge_direct_price_disagrees :
    ∃ history adapter, PriceRun 1 history adapter ∧
      adapter.getAssetPrice 1 1 = .ok (2 ^ 255) ∧ adapter.currentPrice 1 1 = -2 ^ 255 ∧
      ¬adapter.EntryPointsAgree 1 1 (history.quote 1 1) := by
  have script : succeedsWith
      (PriceCall.exec 1 5 (.deployed 5 (.deployed 4)) (.setDirectPrice 1 (2 ^ 255)))
      (fun adapter => decide (adapter.getAssetPrice 1 1 = .ok (2 ^ 255) ∧
        adapter.currentPrice 1 1 = -2 ^ 255)) = true := by decide +kernel
  obtain ⟨adapter, hset, hprices⟩ := succeedsWith_iff.mp script
  obtain ⟨hprice, hcurrent⟩ := of_decide_eq_true hprices
  have run : PriceRun 1 _ adapter := (PriceRun.deploy 0 4 5).call (by decide) 5 _ hset
  refine ⟨_, adapter, run, hprice, hcurrent, ?_⟩
  intro agree
  have positive := (agree.same _ hprice).2
  rw [hcurrent] at positive
  exact absurd positive (by decide)

end ElectroLend
