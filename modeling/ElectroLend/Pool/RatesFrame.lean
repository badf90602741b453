import ElectroLend.Lending.RateInputs
import ElectroLend.Pool.TouchesOnly
import ElectroLend.Pool.Underlying

namespace ElectroLend

open Outcome

namespace LendingPool

/-- No reserve's rates, nor anything they are calculated from but the liquidity, changes. -/
structure RatesFrame (pool pool' : LendingPool) : Prop where
  inputs : ∀ a, (pool'.reserves a).rateInputs = (pool.reserves a).rateInputs
  market : pool'.lendingRateOracle = pool.lendingRateOracle

theorem RatesFrame.refl (pool : LendingPool) : pool.RatesFrame pool := ⟨fun _ => rfl, rfl⟩

theorem RatesFrame.trans {pool pool' pool'' : LendingPool} (h : pool.RatesFrame pool')
    (h' : pool'.RatesFrame pool'') : pool.RatesFrame pool'' where
  inputs a := (h'.inputs a).trans (h.inputs a)
  market := h'.market.trans h.market

variable {pool pool' : LendingPool} {t amount index added taken liquidity : Nat}
  {asset elToken u v : Address}

theorem RatesFrame.setReserve {r : Reserve}
    (h : r.rateInputs = (pool.reserves asset).rateInputs) :
    pool.RatesFrame (pool.setReserve asset r) where
  inputs := setReserve_forall (P := fun a r' => r'.rateInputs = (pool.reserves a).rateInputs) h
    fun _ => rfl
  market := rfl

theorem RatesFrame.setToken (pool : LendingPool) (asset : Address) (token : ERC20) :
    pool.RatesFrame (pool.setToken asset token) := ⟨fun _ => rfl, rfl⟩

end LendingPool

open LendingPool

section Deeds

variable {pool pool' : LendingPool} {t : Nat} {deed : Deed} {allowed : Deed → Prop}

theorem Did.ratesFrame (h : Did t deed pool pool') (keeps : deed.part.OfHolders) : pool.RatesFrame pool' := by
  obtain ⟨asset, stored⟩ := h.stored_inner (.of_part id keeps)
  generalize deed.part = part at stored keeps
  cases stored with
  | elTokens elToken => exact .setReserve rfl
  | payout elToken token =>
    have burned : pool.RatesFrame (pool.setReserve asset { pool.reserves asset with elToken }) :=
      .setReserve rfl
    exact burned.trans (.setToken _ asset token)
  | bits u config => exact ⟨fun _ => rfl, rfl⟩
  | underlying token => exact .setToken pool asset token
  | interest _ _ _ _ _ _ _ => exact keeps.elim
  | debts _ _ => exact keeps.elim
  | terms _ _ => exact keeps.elim

theorem Deeds.ratesFrame (h : Deeds t allowed pool pool')
    (keeps : ∀ deed, allowed deed → deed.part.OfHolders) : pool.RatesFrame pool' :=
  h.invariant pool.RatesFrame
    (fun _ _ _ fine frame did => frame.trans (did.ratesFrame (keeps _ fine)))
    (.refl pool)

end Deeds

namespace LendingPool

variable {pool pool' : LendingPool} {t amount index added taken liquidity : Nat}
  {asset elToken u v : Address}

theorem setUsingAsCollateral_ratesFrame {i : Nat} {value : Bool}
    (h : pool.setUsingAsCollateral u i value = .ok pool') : pool.RatesFrame pool' :=
  (Did.setUsingAsCollateral (t := 0) h).ratesFrame trivial

theorem setBorrowing_ratesFrame {i : Nat} {value : Bool}
    (h : pool.setBorrowing u i value = .ok pool') : pool.RatesFrame pool' :=
  (Did.setBorrowing (t := 0) h).ratesFrame trivial

theorem mintELToken_ratesFrame {first : Bool}
    (h : pool.mintELToken asset u amount = .ok (first, pool')) : pool.RatesFrame pool' :=
  (Did.mintELToken (t := 0) h).ratesFrame trivial

theorem burnELToken_ratesFrame (h : pool.burnELToken asset u v amount = .ok pool') :
    pool.RatesFrame pool' :=
  (Did.burnELToken (t := 0) h).ratesFrame trivial

theorem pullUnderlying_ratesFrame (h : pool.pullUnderlying asset u v amount = .ok pool') :
    pool.RatesFrame pool' :=
  (Did.pull (t := 0) h).ratesFrame trivial

theorem transferUnderlyingTo_ratesFrame
    (h : pool.transferUnderlyingTo asset u v amount = .ok pool') : pool.RatesFrame pool' :=
  (Did.pay (t := 0) h).ratesFrame trivial

theorem transferELToken_ratesFrame {validate : Bool}
    (h : pool.transferELToken t asset u v amount validate = .ok pool') :
    pool.RatesFrame pool' := by
  have deeds : Deeds t (fun deed => deed.part.OfHolders) pool pool' :=
    transferELToken_deeds trivial trivial trivial h
  exact deeds.ratesFrame fun _ holders => holders

theorem elTokenTransferFrom_ratesFrame {msgSender : Address}
    (h : pool.elTokenTransferFrom t msgSender asset u v amount = .ok pool') :
    pool.RatesFrame pool' :=
  (elTokenTransferFrom_deeds h).ratesFrame
    (by simp [Call.deeds, Deed.part, Part.OfHolders])

theorem RatesFrame.elTokenAddress (h : pool.RatesFrame pool') (a : Address) :
    (pool'.reserves a).elTokenAddress = (pool.reserves a).elTokenAddress :=
  Reserve.elTokenAddress_of_rateInputs (h.inputs a)

theorem RatesFrame.underlyingBalance (h : pool.RatesFrame pool') (ht : pool'.tokens = pool.tokens)
    (a : Address) : pool'.underlyingBalance a = pool.underlyingBalance a := by
  rw [LendingPool.underlyingBalance, LendingPool.underlyingBalance, ht, h.elTokenAddress]

def RatesAt (pool : LendingPool) (t : Nat) (asset : Address) (liquidity : Nat) : Prop :=
  (pool.reserves asset).RatesAt t (pool.lendingRateOracle asset) liquidity

theorem RatesAt.frame (h : pool.RatesFrame pool') (hr : pool.RatesAt t asset liquidity) :
    pool'.RatesAt t asset liquidity := by
  rw [RatesAt, h.market]
  exact Reserve.RatesAt.congr (h.inputs asset) hr

theorem updateInterestRates_ratesAt
    (h : pool.updateInterestRates t asset (pool.reserves asset).elTokenAddress added taken =
      .ok pool') :
    taken ≤ pool.underlyingBalance asset + added ∧
      pool'.RatesAt t asset (pool.underlyingBalance asset + added - taken) ∧
      pool'.underlyingBalance asset = pool.underlyingBalance asset ∧
      (pool'.reserves asset).elTokenAddress = (pool.reserves asset).elTokenAddress := by
  obtain ⟨r, hr, rfl⟩ := updateInterestRates_eq_ok h
  obtain ⟨hle, hat, haddress⟩ := Reserve.updateInterestRates_ratesAt hr
  refine ⟨hle, ?_, ?_, ?_⟩
  · simpa [RatesAt, LendingPool.underlyingBalance, ERC20.balanceOf] using hat
  · simp [LendingPool.underlyingBalance, haddress]
  · simpa using haddress

/-- Only the reserve of one asset may differ, and the holder of its liquidity is the same. -/
structure OnBooks (pool pool' : LendingPool) (asset : Address) : Prop where
  touches : pool.TouchesOnly pool' asset
  tokens : pool'.tokens = pool.tokens
  elToken : (pool'.reserves asset).elTokenAddress = (pool.reserves asset).elTokenAddress

theorem OnBooks.refl (pool : LendingPool) (asset : Address) : pool.OnBooks pool asset :=
  ⟨.refl pool asset, rfl, rfl⟩

theorem OnBooks.trans {pool pool' pool'' : LendingPool} (h : pool.OnBooks pool' asset)
    (h' : pool'.OnBooks pool'' asset) : pool.OnBooks pool'' asset where
  touches := h.touches.trans h'.touches
  tokens := h'.tokens.trans h.tokens
  elToken := h'.elToken.trans h.elToken

theorem OnBooks.setReserve {r : Reserve}
    (h : r.elTokenAddress = (pool.reserves asset).elTokenAddress) :
    pool.OnBooks (pool.setReserve asset r) asset where
  touches := .setReserve pool asset r
  tokens := rfl
  elToken := by simpa using h

theorem OnBooks.elTokenAddress (h : pool.OnBooks pool' asset) (a : Address) :
    (pool'.reserves a).elTokenAddress = (pool.reserves a).elTokenAddress := by
  by_cases ha : a = asset
  · rw [ha, h.elToken]
  · rw [h.touches.reserves a ha]

theorem OnBooks.underlyingBalance (h : pool.OnBooks pool' asset) :
    pool'.underlyingBalance asset = pool.underlyingBalance asset := by
  rw [LendingPool.underlyingBalance, LendingPool.underlyingBalance, h.tokens, h.elToken]

end LendingPool

/-- The part says nothing of who holds the liquidity, and how much of it. -/
def Part.OnBooks : Part → Prop
  | interest | elTokens | debts | bits | terms => True
  | _ => False

section Deeds

variable {pool pool' : LendingPool} {t : Nat} {asset : Address} {deed : Deed}
  {allowed : Deed → Prop}

theorem Did.onBooks (h : Did t deed pool pool') (about : deed.About asset)
    (books : deed.part.OnBooks) : pool.OnBooks pool' asset := by
  have stored := h.stored about
  generalize deed.part = part at stored books
  cases stored with
  | payout _ _ => exact books.elim
  | underlying _ => exact books.elim
  | bits u config => exact ⟨(Stored.bits u config).touches, rfl, rfl⟩
  | _ => exact .setReserve rfl

theorem Deeds.onBooks (h : Deeds t allowed pool pool')
    (books : ∀ deed, allowed deed → deed.About asset ∧ deed.part.OnBooks) :
    pool.OnBooks pool' asset :=
  h.invariant (pool.OnBooks · asset)
    (fun _ _ _ fine frame did => frame.trans (did.onBooks (books _ fine).1 (books _ fine).2))
    (.refl pool asset)

end Deeds

namespace LendingPool

variable {pool pool' : LendingPool} {t amount index added taken liquidity : Nat}
  {asset elToken u v : Address}

theorem updateState_onBooks (h : pool.updateState t asset = .ok pool') :
    pool.OnBooks pool' asset :=
  (Did.updateState h).onBooks rfl trivial

theorem cumulateToLiquidityIndex_onBooks
    (h : pool.cumulateToLiquidityIndex asset amount = .ok pool') : pool.OnBooks pool' asset :=
  (Did.cumulateToLiquidityIndex (t := 0) h).onBooks rfl trivial

theorem mintVariableDebt_onBooks {first : Bool}
    (h : pool.mintVariableDebt asset u v amount index = .ok (first, pool')) :
    pool.OnBooks pool' asset :=
  (Did.mintVariableDebt (t := 0) h).onBooks rfl trivial

theorem mintStableDebt_onBooks {first : Bool}
    (h : pool.mintStableDebt t asset u v amount = .ok (first, pool')) :
    pool.OnBooks pool' asset := by
  obtain ⟨_, _, rfl⟩ := mintStableDebt_eq_ok h
  exact .setReserve rfl

theorem setBorrowing_onBooks {i : Nat} {value : Bool}
    (h : pool.setBorrowing u i value = .ok pool') (asset : Address) :
    pool.OnBooks pool' asset :=
  (Did.setBorrowing (t := 0) h).onBooks trivial trivial

theorem mintDebt_onBooks {vars : ExecuteBorrowParams} {first : Bool}
    (h : pool.mintDebt t vars = .ok (first, pool')) : pool.OnBooks pool' vars.asset := by
  simp only [mintDebt, bind_eq_ok, ite_eq_ok] at h
  obtain ⟨_, _, ⟨_, hm⟩ | ⟨_, hm⟩⟩ := h
  · exact mintStableDebt_onBooks hm
  · exact mintVariableDebt_onBooks hm

theorem burnDebt_onBooks {mode : InterestRateMode}
    (h : pool.burnDebt t asset u amount mode = .ok pool') : pool.OnBooks pool' asset := by
  have deeds : Deeds t (fun deed => deed.About asset ∧ deed.part.OnBooks) pool pool' :=
    burnDebt_deeds ⟨rfl, trivial⟩ ⟨rfl, trivial⟩ h
  exact deeds.onBooks fun _ books => books

theorem swapDebt_onBooks {stableDebt variableDebt : Nat} {mode : InterestRateMode} {first : Bool}
    (h : pool.swapDebt t asset u stableDebt variableDebt mode = .ok (first, pool')) :
    pool.OnBooks pool' asset := by
  simp only [swapDebt, ite_eq_ok, bind_eq_ok] at h
  obtain ⟨_, p₁, hb, hm⟩ | ⟨_, p₁, hb, hm⟩ := h
  · exact ((Did.burnStableDebt hb).onBooks rfl trivial).trans (mintVariableDebt_onBooks hm)
  · have burned := (Did.burnVariableDebt (t := t) hb).onBooks rfl trivial
    exact burned.trans (mintStableDebt_onBooks hm)

theorem burnLiquidatedDebt_onBooks {debt : Nat}
    (h : pool.burnLiquidatedDebt t asset u debt amount = .ok pool') : pool.OnBooks pool' asset := by
  have deeds : Deeds t (fun deed => deed.About asset ∧ deed.part.OnBooks) pool pool' :=
    burnLiquidatedDebt_deeds ⟨rfl, trivial⟩ ⟨rfl, trivial⟩ h
  exact deeds.onBooks fun _ books => books

/-- Once the books are updated the rates are those of the liquidity predicted from the start. -/
theorem OnBooks.updateInterestRates {middle : LendingPool} (h : pool.OnBooks middle asset)
    (hu : middle.updateInterestRates t asset (pool.reserves asset).elTokenAddress added taken =
      .ok pool') :
    pool.OnBooks pool' asset ∧ taken ≤ pool.underlyingBalance asset + added ∧
      pool'.RatesAt t asset (pool.underlyingBalance asset + added - taken) := by
  rw [← h.elToken] at hu
  obtain ⟨hle, hat, _, haddress⟩ := updateInterestRates_ratesAt hu
  rw [h.underlyingBalance] at hle hat
  have books : middle.OnBooks pool' asset :=
    ⟨updateInterestRates_touches hu, updateInterestRates_tokens hu, haddress⟩
  exact ⟨h.trans books, hle, hat⟩

end LendingPool

end ElectroLend
