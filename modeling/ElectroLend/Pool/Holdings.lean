import ElectroLend.Pool.CallDeeds

namespace ElectroLend

open Outcome

namespace LendingPool

/-- The elTokens of one asset, the index they are read at, and all bits are the same. -/
structure SameHoldings (pool pool' : LendingPool) (asset : Address) : Prop where
  elToken : (pool'.reserves asset).elToken = (pool.reserves asset).elToken
  index : (pool'.reserves asset).liquidityIndex = (pool.reserves asset).liquidityIndex
  timestamp : (pool'.reserves asset).lastUpdateTimestamp =
    (pool.reserves asset).lastUpdateTimestamp
  address : (pool'.reserves asset).elTokenAddress = (pool.reserves asset).elTokenAddress
  id : (pool'.reserves asset).id = (pool.reserves asset).id
  config : pool'.usersConfig = pool.usersConfig

theorem SameHoldings.trans {pool pool' pool'' : LendingPool} {asset : Address}
    (h : pool.SameHoldings pool' asset) (h' : pool'.SameHoldings pool'' asset) :
    pool.SameHoldings pool'' asset where
  elToken := h'.elToken.trans h.elToken
  index := h'.index.trans h.index
  timestamp := h'.timestamp.trans h.timestamp
  address := h'.address.trans h.address
  id := h'.id.trans h.id
  config := h'.config.trans h.config

variable {pool pool' : LendingPool} {t amount added taken : Nat} {asset a elToken u v : Address}

theorem SameHoldings.setReserve {r : Reserve} (hel : r.elToken = (pool.reserves a).elToken)
    (hi : r.liquidityIndex = (pool.reserves a).liquidityIndex)
    (ht : r.lastUpdateTimestamp = (pool.reserves a).lastUpdateTimestamp)
    (had : r.elTokenAddress = (pool.reserves a).elTokenAddress) (hid : r.id = (pool.reserves a).id) :
    pool.SameHoldings (pool.setReserve a r) asset := by
  by_cases ha : asset = a
  · subst ha
    exact ⟨by simpa using hel, by simpa using hi, by simpa using ht, by simpa using had,
      by simpa using hid, rfl⟩
  · exact ⟨by simp [ha], by simp [ha], by simp [ha], by simp [ha], by simp [ha], rfl⟩

end LendingPool

open LendingPool

section Deeds

variable {pool pool' : LendingPool} {t : Nat} {asset a : Address} {deed : Deed}
  {allowed : Deed → Prop}

/-- The part is about what is owed, or about underlying. -/
def Part.KeepsHoldings : Part → Prop
  | debts | underlying => True
  | _ => False

theorem Did.sameHoldings (h : Did t deed pool pool') (keeps : deed.part.KeepsHoldings) (asset : Address) : pool.SameHoldings pool' asset := by
  obtain ⟨_, stored⟩ := h.stored_inner (.of_part id keeps)
  generalize deed.part = part at stored keeps
  cases stored with
  | debts _ _ => exact .setReserve rfl rfl rfl rfl rfl
  | underlying token => exact ⟨rfl, rfl, rfl, rfl, rfl, rfl⟩
  | interest _ _ _ _ _ _ _ => exact keeps.elim
  | elTokens _ => exact keeps.elim
  | payout _ _ => exact keeps.elim
  | bits _ _ => exact keeps.elim
  | terms _ _ => exact keeps.elim

theorem Deeds.sameHoldings (h : Deeds t allowed pool pool')
    (keeps : ∀ deed, allowed deed → deed.part.KeepsHoldings) (asset : Address) :
    pool.SameHoldings pool' asset :=
  h.invariant (pool.SameHoldings · asset)
    (fun _ _ _ fine same did =>
      same.trans (did.sameHoldings (keeps _ fine) asset))
    ⟨rfl, rfl, rfl, rfl, rfl, rfl⟩

end Deeds

namespace LendingPool

variable {pool pool' : LendingPool} {t amount added taken : Nat} {asset a elToken u v : Address}

theorem updateInterestRates_holdings
    (h : pool.updateInterestRates t a elToken added taken = .ok pool') (asset : Address) :
    pool.SameHoldings pool' asset ∧ pool'.tokens = pool.tokens := by
  obtain ⟨r, hr, rfl⟩ := updateInterestRates_eq_ok h
  obtain ⟨rates, _, rfl⟩ := Reserve.updateInterestRates_eq_ok hr
  exact ⟨.setReserve rfl rfl rfl rfl rfl, rfl⟩

theorem burnLiquidatedDebt_holdings {debt : Nat}
    (h : pool.burnLiquidatedDebt t a u debt amount = .ok pool') (asset : Address) :
    pool.SameHoldings pool' asset := by
  have deeds : Deeds t (fun deed => deed.part.KeepsHoldings) pool pool' :=
    burnLiquidatedDebt_deeds trivial trivial h
  exact deeds.sameHoldings (fun _ keeps => keeps) asset

theorem pullUnderlying_holdings (h : pool.pullUnderlying a u v amount = .ok pool')
    (asset : Address) : pool.SameHoldings pool' asset :=
  (Did.pull (t := 0) h).sameHoldings trivial asset

theorem updateState_holdings_other (h : pool.updateState t a = .ok pool') (hne : asset ≠ a) :
    pool.SameHoldings pool' asset := by
  obtain ⟨r, _, rfl⟩ := updateState_eq_ok h
  exact ⟨by simp [hne], by simp [hne], by simp [hne], by simp [hne], by simp [hne], rfl⟩

theorem updateState_holdings (h : pool.updateState t asset = .ok pool') (u : Address) :
    ∃ index minted, (pool.reserves asset).nextLiquidityIndex t = .ok index ∧
      (∃ r, (pool.reserves asset).updateState t = .ok r ∧
        r.elToken.balances u = (pool.reserves asset).elToken.balances u + minted) ∧
      (u ≠ (pool.reserves asset).elToken.treasury → minted = 0) ∧
      (pool'.reserves asset).liquidityIndex = index ∧
      (pool'.reserves asset).lastUpdateTimestamp = uint40 t ∧
      (pool'.reserves asset).elToken.balances u =
        (pool.reserves asset).elToken.balances u + minted ∧
      (pool'.reserves asset).elTokenAddress = (pool.reserves asset).elTokenAddress ∧
      (pool'.reserves asset).id = (pool.reserves asset).id ∧
      pool'.usersConfig = pool.usersConfig ∧ pool'.tokens = pool.tokens := by
  obtain ⟨r, hr, rfl⟩ := updateState_eq_ok h
  obtain ⟨index, vi, credited, _, hindex, _, hreq, _⟩ := Reserve.updateState_eq_ok hr
  have credit : ∃ minted, r.elToken.balances u = (pool.reserves asset).elToken.balances u + minted ∧
      (u ≠ (pool.reserves asset).elToken.treasury → minted = 0) := by
    rw [hreq]
    by_cases hu : u = (pool.reserves asset).elToken.treasury
    · refine ⟨credited, ?_, fun hne => absurd hu hne⟩
      subst hu
      simp [ELToken.creditTreasury]
    · refine ⟨0, ?_, fun _ => rfl⟩
      rw [Nat.add_zero]
      exact ELToken.creditTreasury_other _ _ hu
  obtain ⟨minted, hcredit, htreasury⟩ := credit
  refine ⟨index, minted, hindex, ⟨r, hr, hcredit⟩, htreasury, ?_, ?_, ?_, ?_, ?_, rfl, rfl⟩
  · simp [hreq]
  · simp [hreq]
  · simpa using hcredit
  · simp [hreq]
  · simp [hreq]

theorem setUsingAsCollateral_holdings {i : Nat} {value : Bool}
    (h : pool.setUsingAsCollateral u i value = .ok pool') :
    pool'.reserves = pool.reserves ∧ pool'.tokens = pool.tokens ∧
      (∀ j, (pool'.usersConfig u).collateralBit j =
        if j = i then value else (pool.usersConfig u).collateralBit j) ∧
      ∀ w, w ≠ u → pool'.usersConfig w = pool.usersConfig w := by
  obtain ⟨config, hc, rfl⟩ := setUsingAsCollateral_eq_ok h
  obtain ⟨_, hbits, _⟩ := UserConfigurationMap.setUsingAsCollateral_eq_ok hc
  refine ⟨rfl, rfl, ?_, ?_⟩
  · intro j
    simp [hbits]
  · intro w hw
    simp [hw]

/-- A burn of elTokens takes the scaled amount from the user and sends the amount itself. -/
theorem burnELToken_holdings (h : pool.burnELToken asset u v amount = .ok pool') :
    ∃ scaled, rayDiv amount (pool.reserves asset).liquidityIndex = .ok scaled ∧
      scaled ≤ (pool.reserves asset).elToken.balances u ∧
      (pool'.reserves asset).elToken.balances u =
        (pool.reserves asset).elToken.balances u - scaled ∧
      (pool'.reserves asset).id = (pool.reserves asset).id ∧
      pool'.usersConfig = pool.usersConfig ∧
      moveBalance (pool.tokens asset).balances (pool.reserves asset).elTokenAddress v amount =
        .ok (pool'.tokens asset).balances := by
  obtain ⟨elToken, token, hb, rfl⟩ := burnELToken_eq_ok h
  obtain ⟨scaled, hd, _, hbal, hbals, _, _, _, _, hsend⟩ := ELToken.burn_eq_ok hb
  refine ⟨scaled, hd, hbal, by simp [hbals], by simp, rfl, ?_⟩
  simpa using (SafeERC20.safeTransfer_balances hsend).1

end LendingPool

end ElectroLend
