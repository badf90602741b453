import ElectroLend.Pool.CallDeeds

namespace ElectroLend

open Outcome

namespace LendingPool

/-- Only the reserve and the underlying of one asset may differ; the bits and the elToken holders'
view of the other assets do not matter here. -/
structure TouchesOnly (pool pool' : LendingPool) (asset : Address) : Prop where
  reserves : ∀ a, a ≠ asset → pool'.reserves a = pool.reserves a
  tokens : ∀ a, a ≠ asset → pool'.tokens a = pool.tokens a
  market : pool'.lendingRateOracle = pool.lendingRateOracle

theorem TouchesOnly.refl (pool : LendingPool) (asset : Address) : pool.TouchesOnly pool asset :=
  ⟨fun _ _ => rfl, fun _ _ => rfl, rfl⟩

theorem TouchesOnly.trans {pool pool' pool'' : LendingPool} {asset : Address}
    (h : pool.TouchesOnly pool' asset) (h' : pool'.TouchesOnly pool'' asset) :
    pool.TouchesOnly pool'' asset where
  reserves a ha := (h'.reserves a ha).trans (h.reserves a ha)
  tokens a ha := (h'.tokens a ha).trans (h.tokens a ha)
  market := h'.market.trans h.market

theorem TouchesOnly.setReserve (pool : LendingPool) (asset : Address) (r : Reserve) :
    pool.TouchesOnly (pool.setReserve asset r) asset :=
  ⟨fun a ha => by simp [ha], fun _ _ => rfl, rfl⟩

end LendingPool

open LendingPool

variable {pool pool' : LendingPool} {t : Nat} {asset : Address} {deed : Deed} {allowed : Deed → Prop}

theorem Stored.touches {part : Part} (h : Stored pool asset part pool') :
    pool.TouchesOnly pool' asset := by
  cases h with
  | payout elToken token => exact ⟨fun a ha => by simp [ha], fun a ha => by simp [ha], rfl⟩
  | bits u config => exact ⟨fun _ _ => rfl, fun _ _ => rfl, rfl⟩
  | underlying token => exact ⟨fun _ _ => rfl, fun a ha => by simp [ha], rfl⟩
  | _ => exact .setReserve pool asset _

theorem Deeds.touches (h : Deeds t allowed pool pool')
    (about : ∀ deed, allowed deed → deed.About asset) : pool.TouchesOnly pool' asset :=
  h.invariant (pool.TouchesOnly · asset)
    (fun _ _ _ fine touched did => touched.trans (did.stored (about _ fine)).touches) (.refl _ _)

namespace LendingPool

variable {amount added taken : Nat} {elToken u v : Address}

theorem updateState_touches (h : pool.updateState t asset = .ok pool') :
    pool.TouchesOnly pool' asset :=
  ((Did.updateState h).stored rfl).touches

theorem updateInterestRates_touches
    (h : pool.updateInterestRates t asset elToken added taken = .ok pool') :
    pool.TouchesOnly pool' asset :=
  ((Did.updateInterestRates h).stored rfl).touches

theorem setUsingAsCollateral_touches {i : Nat} {value : Bool}
    (h : pool.setUsingAsCollateral u i value = .ok pool') (asset : Address) :
    pool.TouchesOnly pool' asset :=
  ((Did.setUsingAsCollateral (t := 0) h).stored trivial).touches

theorem pullUnderlying_touches (h : pool.pullUnderlying asset u v amount = .ok pool') :
    pool.TouchesOnly pool' asset :=
  ((Did.pull (t := 0) h).stored rfl).touches

theorem transferUnderlyingTo_touches (h : pool.transferUnderlyingTo asset u v amount = .ok pool') :
    pool.TouchesOnly pool' asset :=
  ((Did.pay (t := 0) h).stored rfl).touches

theorem mintELToken_touches {first : Bool}
    (h : pool.mintELToken asset u amount = .ok (first, pool')) : pool.TouchesOnly pool' asset :=
  ((Did.mintELToken (t := 0) h).stored rfl).touches

theorem burnELToken_touches (h : pool.burnELToken asset u v amount = .ok pool') :
    pool.TouchesOnly pool' asset :=
  ((Did.burnELToken (t := 0) h).stored rfl).touches

theorem burnLiquidatedDebt_touches {debt : Nat}
    (h : pool.burnLiquidatedDebt t asset u debt amount = .ok pool') :
    pool.TouchesOnly pool' asset := by
  have deeds : Deeds t (Deed.About asset) pool pool' := burnLiquidatedDebt_deeds rfl rfl h
  exact deeds.touches fun _ about => about

theorem seizeCollateral_touches {receiveLToken : Bool}
    (h : pool.seizeCollateral t v asset u amount receiveLToken = .ok pool') :
    pool.TouchesOnly pool' asset := by
  have deeds : Deeds t (Deed.About asset) pool pool' :=
    seizeCollateral_deeds rfl rfl rfl trivial h
  exact deeds.touches fun _ about => about

theorem withdraw_touches {msgSender recipient : Address} {paid : Nat}
    (h : pool.withdraw t msgSender asset amount recipient = .ok (paid, pool')) :
    pool.TouchesOnly pool' asset :=
  (withdraw_deeds h).touches (by simp [Call.deeds, Deed.About])

end LendingPool

end ElectroLend
