import ElectroLend.Pool.Scripts
import ElectroLend.Properties.BorrowingBits
import ElectroLend.Properties.FollowRates

namespace ElectroLend

open Outcome

namespace LendingPool

variable {pool pool' : LendingPool} {t amount : Nat} {asset receiver u v : Address}

theorem sendFlashLoan_frame {loans : List (Address × Nat)} {entries : List FlashLoanEntry}
    (h : pool.sendFlashLoan receiver loans = .ok (entries, pool')) :
    pool.RatesFrame pool' ∧ entries.map FlashLoanEntry.asset = loans.map Prod.fst ∧
      (∀ e ∈ entries, e.elTokenAddress = (pool.reserves e.asset).elTokenAddress) ∧
      ∀ a, a ∉ loans.map Prod.fst → pool.RatesKept pool' a := by
  induction loans generalizing pool entries with
  | nil =>
    cases Except.ok.inj h
    exact ⟨.refl _, rfl, by simp, fun _ _ => ⟨rfl, rfl, rfl⟩⟩
  | cons loan rest ih =>
    obtain ⟨asset, amount⟩ := loan
    obtain ⟨premium, middle, tail, _, hm, hrest, rfl⟩ := sendFlashLoan_cons h
    obtain ⟨frame, hassets, haddress, kept⟩ := ih hrest
    have sent := transferUnderlyingTo_ratesFrame hm
    refine ⟨sent.trans frame, by simp [hassets], ?_, ?_⟩
    · intro e he
      obtain rfl | he := List.mem_cons.mp he
      · rfl
      · rw [haddress e he, sent.elTokenAddress]
    · intro a ha
      simp only [List.map_cons, List.mem_cons, not_or] at ha
      exact ((transferUnderlyingTo_touches hm).ratesKept a ha.1).trans (kept a ha.2)

theorem settleFlashLoanEntry_updatesRates {msgSender onBehalfOf : Address} {entry : FlashLoanEntry}
    {mode : Nat} (hs : pool.NotELToken msgSender) (hr : pool.NotELToken receiver)
    (hel : entry.elTokenAddress = (pool.reserves entry.asset).elTokenAddress)
    (h : pool.settleFlashLoanEntry t .lendingPool msgSender receiver onBehalfOf entry mode =
      .ok pool') : UpdatesRates t pool pool' entry.asset := by
  obtain ⟨_, _, ⟨_, hreturn⟩ | ⟨_, hborrow⟩⟩ := settleFlashLoanEntry_eq_ok h
  · exact returnFlashLoan_updatesRates hr hel hreturn
  · exact executeBorrow_updatesRates (fun _ => hs) hel hborrow

theorem settleFlashLoan_followRates {msgSender onBehalfOf : Address}
    {entries : List FlashLoanEntry} {modes : List Nat} (hs : pool.NotELToken msgSender)
    (hr : pool.NotELToken receiver)
    (hel : ∀ e ∈ entries, e.elTokenAddress = (pool.reserves e.asset).elTokenAddress)
    (h : pool.settleFlashLoan t .lendingPool msgSender receiver onBehalfOf entries modes =
      .ok pool') :
    FollowRates t pool pool' ∧ ∀ a ∈ entries.map FlashLoanEntry.asset, pool'.RatesDescribe t a := by
  induction entries generalizing pool modes with
  | nil =>
    cases Except.ok.inj h
    exact ⟨.refl t _, by simp⟩
  | cons entry entries ih =>
    obtain ⟨mode, rest, middle, _, hentry, hrest⟩ := settleFlashLoan_cons h
    have updates := settleFlashLoanEntry_updatesRates hs hr (hel entry List.mem_cons_self) hentry
    have hel' : ∀ e ∈ entries, e.elTokenAddress = (middle.reserves e.asset).elTokenAddress := by
      intro e he
      rw [updates.elToken, hel e (List.mem_cons_of_mem _ he)]
    obtain ⟨follows, describe⟩ := ih (hs.congr updates.elToken) (hr.congr updates.elToken) hel' hrest
    refine ⟨updates.follow.trans follows, ?_⟩
    intro a ha
    obtain rfl | ha := List.mem_cons.mp ha
    · obtain kept | describes := follows.rates entry.asset
      · exact updates.describe.kept kept
      · exact describes
    · exact describe a ha

theorem flashLoan_followRates {msgSender onBehalfOf : Address} {assets : List Address}
    {amounts modes : List Nat} {executeOperation : LendingPool → Result (Bool × LendingPool)}
    (hs : pool.NotELToken msgSender) (hr : pool.NotELToken receiver)
    (callback : ∀ sent answer returned, executeOperation sent = .ok (answer, returned) →
      FollowRates t sent returned)
    (h : pool.flashLoan t .lendingPool msgSender receiver assets amounts modes onBehalfOf
      executeOperation = .ok pool') : FollowRates t pool pool' := by
  obtain ⟨_, entries, sent, answer, returned, hsend, hcall, hsettle⟩ := flashLoan_eq_ok h
  obtain ⟨frame, hassets, haddress, kept⟩ := sendFlashLoan_frame hsend
  have back := callback sent answer returned hcall
  have address : ∀ a, (returned.reserves a).elTokenAddress = (pool.reserves a).elTokenAddress :=
    fun a => (back.elToken a).trans (frame.elTokenAddress a)
  have hel : ∀ e ∈ entries, e.elTokenAddress = (returned.reserves e.asset).elTokenAddress := by
    intro e he
    rw [haddress e he, address]
  obtain ⟨settles, describe⟩ :=
    settleFlashLoan_followRates (hs.congr address) (hr.congr address) hel hsettle
  refine ⟨fun a => (settles.elToken a).trans (address a), ?_⟩
  intro a
  by_cases ha : a ∈ entries.map FlashLoanEntry.asset
  · exact .inr (describe a ha)
  · rw [hassets] at ha
    obtain kept' | describes := (back.trans settles).rates a
    · exact .inl ((kept a ha).trans kept')
    · exact .inr describes

theorem setUserUseReserveAsCollateral_followRates {msgSender : Address} {value : Bool}
    (h : pool.setUserUseReserveAsCollateral t msgSender asset value = .ok pool') :
    FollowRates t pool pool' := by
  simp only [setUserUseReserveAsCollateral, bind_eq_ok] at h
  obtain ⟨_, _, _, _, hset⟩ := h
  exact .of_frame (setUsingAsCollateral_ratesFrame hset) (setUsingAsCollateral_tokens hset)

theorem elTokenTransfer_followRates {msgSender recipient : Address}
    (h : pool.elTokenTransfer t msgSender asset recipient amount = .ok pool') :
    FollowRates t pool pool' := by
  simp only [elTokenTransfer, bind_eq_ok] at h
  obtain ⟨_, _, hsend⟩ := h
  exact .of_frame (transferELToken_ratesFrame hsend) (transferELToken_tokens hsend)

theorem elTokenApprove_followRates {msgSender spender : Address}
    (h : pool.elTokenApprove msgSender asset spender amount = .ok pool') :
    FollowRates t pool pool' := by
  simp only [elTokenApprove, bind_eq_ok, pure_eq_ok] at h
  obtain ⟨elToken, _, rfl⟩ := h
  exact .of_frame (.setReserve rfl) rfl

theorem callToken_followRates {change : ERC20 → Result ERC20}
    (hsame : ∀ token, change (pool.tokens asset) = .ok token →
      token.balances (pool.reserves asset).elTokenAddress =
        (pool.tokens asset).balances (pool.reserves asset).elTokenAddress)
    (h : pool.callToken asset change = .ok pool') : FollowRates t pool pool' := by
  simp only [callToken, bind_eq_ok, pure_eq_ok] at h
  obtain ⟨token, hchange, rfl⟩ := h
  refine ⟨fun _ => rfl, fun a => .inl ⟨rfl, rfl, ?_⟩⟩
  by_cases ha : a = asset
  · subst ha
    simpa [underlyingBalance, ERC20.balanceOf] using hsame token hchange
  · simp [underlyingBalance, ha]

theorem moveBalance_elToken {balances balances' : Address → Nat} (hu : pool.NotELToken u)
    (hv : pool.NotELToken v) (h : moveBalance balances u v amount = .ok balances') :
    balances' (pool.reserves asset).elTokenAddress =
      balances (pool.reserves asset).elTokenAddress := by
  obtain ⟨hu0, hv0⟩ := moveBalance_nonzero h
  refine moveBalance_other ?_ ?_ h
  · intro he
    exact hu asset (by rw [he]; exact hu0) he.symm
  · intro he
    exact hv asset (by rw [he]; exact hv0) he.symm

end LendingPool

open LendingPool

/-- The calls that the rates are expected to follow: no elToken takes part in a transfer, the
strategies, the factors and the market's rates are fixed, and no underlying is taken as collateral
of a debt in itself. -/
def Call.KeepsToRates (pool : LendingPool) : Call → Prop
  | .withdraw _ _ recipient => pool.NotELToken recipient
  | .liquidationCall collateralAsset debtAsset _ _ receiveLToken =>
    collateralAsset ≠ debtAsset ∨ receiveLToken = true
  | .transfer _ recipient _ => pool.NotELToken recipient
  | .transferFrom _ sender recipient _ => pool.NotELToken sender ∧ pool.NotELToken recipient
  | .setConfiguration asset configuration =>
    configuration.getReserveFactor = (pool.reserves asset).configuration.getReserveFactor
  | .listReserve _ | .setReserveInterestRateStrategy _ _ | .setMarketBorrowRate _ _ => False
  | _ => True

def ratesRules : Rules where
  call pool msgSender call := pool.NotELToken msgSender ∧ call.KeepsToRates pool
  flashLoan pool msgSender receiver := pool.NotELToken msgSender ∧ pool.NotELToken receiver

theorem Call.exec_followRates {pool pool' : LendingPool} {t : Nat} {msgSender : Address}
    {call : Call} (hs : pool.NotELToken msgSender) (hc : call.KeepsToRates pool)
    (h : call.exec t msgSender pool = .ok pool') : FollowRates t pool pool' := by
  cases call with
  | deposit asset amount onBehalfOf => exact (deposit_updatesRates (hs _) h).follow
  | withdraw asset amount recipient =>
    obtain ⟨⟨_, _⟩, hw, rfl⟩ := map_eq_ok.mp h
    exact (withdraw_updatesRates (hc asset) hw).follow
  | borrow asset amount interestRateMode onBehalfOf => exact (borrow_updatesRates hs h).follow
  | repay asset amount rateMode onBehalfOf =>
    obtain ⟨⟨_, _⟩, hr, rfl⟩ := map_eq_ok.mp h
    exact (repay_updatesRates (hs _) hr).follow
  | swapBorrowRateMode asset rateMode => exact (swapBorrowRateMode_updatesRates h).follow
  | rebalanceStableBorrowRate asset user => exact (rebalanceStableBorrowRate_updatesRates h).follow
  | setUserUseReserveAsCollateral asset useAsCollateral =>
    exact setUserUseReserveAsCollateral_followRates h
  | liquidationCall collateralAsset debtAsset user debtToCover receiveLToken =>
    exact liquidationCall_followRates hs hc h
  | elTokenTransfer asset recipient amount =>
    exact elTokenTransfer_followRates h
  | elTokenTransferFrom asset sender recipient amount =>
    exact .of_frame (elTokenTransferFrom_ratesFrame h) (elTokenTransferFrom_tokens h)
  | elTokenApprove asset spender amount =>
    exact elTokenApprove_followRates h
  | approveStableDelegation asset delegatee amount =>
    cases Except.ok.inj h
    exact .of_frame (.setReserve rfl) rfl
  | approveVariableDelegation asset delegatee amount =>
    cases Except.ok.inj h
    exact .of_frame (.setReserve rfl) rfl
  | approve asset spender amount =>
    have hcall : pool.callToken asset (·.approve msgSender spender amount) = .ok pool' := h
    refine callToken_followRates ?_ hcall
    intro token happrove
    have happrove : (pool.tokens asset).approve msgSender spender amount = .ok token := happrove
    simp only [ERC20.approve, bind_eq_ok, pure_eq_ok] at happrove
    obtain ⟨_, _, _, _, rfl⟩ := happrove
    rfl
  | transfer asset recipient amount =>
    have hcall : pool.callToken asset (·.transfer msgSender recipient amount) = .ok pool' := h
    refine callToken_followRates ?_ hcall
    intro token htransfer
    have htransfer : (pool.tokens asset).transfer msgSender recipient amount = .ok token :=
      htransfer
    simp only [ERC20.transfer, bind_eq_ok, pure_eq_ok] at htransfer
    obtain ⟨balances, hm, rfl⟩ := htransfer
    exact moveBalance_elToken hs hc hm
  | transferFrom asset sender recipient amount =>
    have hcall : pool.callToken asset (·.transferFrom msgSender sender recipient amount) =
        .ok pool' := h
    refine callToken_followRates ?_ hcall
    intro token htransfer
    exact moveBalance_elToken hc.1 hc.2
      (SafeERC20.safeTransferFrom_balances (SafeERC20.lowLevelCall_eq_ok.mpr htransfer))
  | listReserve input => exact absurd hc id
  | setConfiguration asset configuration =>
    cases Except.ok.inj h
    refine .of_frame (.setReserve ?_) rfl
    have hfactor : configuration.getReserveFactor =
        (pool.reserves asset).configuration.getReserveFactor := hc
    simp [Reserve.rateInputs, Reserve.storedRates, hfactor]
  | setReserveInterestRateStrategy asset interestRateStrategy => exact absurd hc id
  | setPause val =>
    cases Except.ok.inj h
    exact .of_frame ⟨fun _ => rfl, rfl⟩ rfl
  | setAssetPrice asset price =>
    cases Except.ok.inj h
    exact .of_frame ⟨fun _ => rfl, rfl⟩ rfl
  | setMarketBorrowRate asset rate => exact absurd hc id

theorem Steps.followRates {pool pool' : LendingPool} {t : Nat} (h : Steps ratesRules t pool pool') :
    FollowRates t pool pool' := by
  induction h with
  | refl pool => exact .refl t pool
  | call before msgSender call allowed success ih =>
    exact ih.trans (Call.exec_followRates allowed.1 allowed.2 success)
  | flashLoan before msgSender receiver assets amounts modes onBehalfOf executeOperation allowed
      callback success ih ihcallback =>
    exact ih.trans (flashLoan_followRates allowed.1 allowed.2 ihcallback success)

namespace LendingPool

/-- The liquidity of the reserve, its stable supply or its scaled variable supply has changed. -/
def SuppliesChanged (pool pool' : LendingPool) (asset : Address) : Prop :=
  pool'.underlyingBalance asset ≠ pool.underlyingBalance asset ∨
    (pool'.reserves asset).stableDebtToken.totalSupply ≠
      (pool.reserves asset).stableDebtToken.totalSupply ∨
    (pool'.reserves asset).variableDebtToken.scaledTotalSupply ≠
      (pool.reserves asset).variableDebtToken.scaledTotalSupply

variable {pool pool' : LendingPool} {t : Nat} {asset : Address}

theorem RatesKept.supplies (h : pool.RatesKept pool' asset) : ¬pool.SuppliesChanged pool' asset := by
  intro changed
  obtain hne | hne | hne := changed
  · exact hne h.liquidity
  · exact hne (congrArg RateInputs.stableSupply h.inputs)
  · exact hne (congrArg RateInputs.scaledVariableDebt h.inputs)

theorem FollowRates.describe (h : FollowRates t pool pool') (hc : pool.SuppliesChanged pool' asset) :
    pool'.RatesDescribe t asset := by
  obtain kept | describe := h.rates asset
  · exact absurd hc kept.supplies
  · exact describe

/-- In a well-listed pool it is enough to look at the listed reserves. -/
theorem WellListed.notELToken (inv : pool.WellListed) {account : Address}
    (h : ∀ i, i < pool.reservesCount →
      account ≠ (pool.reserves (pool.reservesList i)).elTokenAddress) :
    pool.NotELToken account := by
  intro asset ha
  obtain blank | ⟨_, hid, hlist⟩ := inv.known asset
  · exact absurd blank.elToken ha
  · have hne := h _ hid
    rw [hlist] at hne
    exact hne

end LendingPool

/-- After any calls and flash loans that keep to the rates, the stored rates describe every reserve
that has changed. A liquidation that takes underlying for a debt in itself stores the rates of the
liquidity without the debt covered; they describe the reserve exactly when the covered debt makes no
difference to them. -/
theorem stored_rates_describe_iff {t : Nat} :
    (∀ pool pool' : LendingPool, Steps ratesRules t pool pool' →
      ∀ asset, pool.SuppliesChanged pool' asset → pool'.RatesDescribe t asset) ∧
    (∀ (pool pool' : LendingPool) (liquidator asset user : Address) (debtToCover : Nat),
      pool.NotELToken liquidator →
      pool.liquidationCall t liquidator asset asset user debtToCover false = .ok pool' →
      ∃ left covered, 0 < covered ∧ pool'.underlyingBalance asset = left + covered ∧
        (pool'.RatesDescribe t asset ↔
          (pool'.reserves asset).calculateInterestRates t (pool'.lendingRateOracle asset)
              (left + covered) 0 0 =
            (pool'.reserves asset).calculateInterestRates t (pool'.lendingRateOracle asset)
              left 0 0)) := by
  refine ⟨?_, ?_⟩
  · intro pool pool' run asset changed
    exact run.followRates.describe changed
  · intro pool pool' liquidator asset user debtToCover hl h
    obtain ⟨left, covered, hpos, hbal, hat⟩ := liquidationCall_same_asset hl h
    refine ⟨left, covered, hpos, hbal, ?_⟩
    have stored : (pool'.reserves asset).calculateInterestRates t (pool'.lendingRateOracle asset)
        left 0 0 = .ok (pool'.reserves asset).storedRates := hat
    rw [stored, RatesDescribe, hbal]

/-- Bob owes weth against dai and weth, and the dai has lost half its price. -/
def fallenMarket : LendingPool :=
  Market.endState (Market.setup 1000 ++
    [(1, Market.alice, .deposit Market.weth (10 ^ 20) Market.alice),
      (2, Market.bob, .deposit Market.dai (10 ^ 20) Market.bob),
      (2, Market.bob, .deposit Market.weth (10 ^ 19) Market.bob),
      (3, Market.bob, .borrow Market.weth (7 * 10 ^ 19) 2 Market.bob),
      (4, Market.poolAddress, .setAssetPrice Market.dai (5 * 10 ^ 17))])

theorem fallenMarket_reachable : Reachable .any 4 fallenMarket :=
  Market.endState_reachable (by decide +kernel) (by decide +kernel)

/-- Carol covers 5 weth of bob's debt and takes weth for it. -/
theorem fallenMarket_liquidation_not_described :
    Reachable .any 4 fallenMarket ∧
      ∃ pool', fallenMarket.liquidationCall 5 Market.carol Market.weth Market.weth Market.bob
          (5 * 10 ^ 18) false = .ok pool' ∧
        fallenMarket.SuppliesChanged pool' Market.weth ∧ ¬pool'.RatesDescribe 5 Market.weth := by
  refine ⟨fallenMarket_reachable, ?_⟩
  have liquidated : succeedsWith
      (fallenMarket.liquidationCall 5 Market.carol Market.weth Market.weth Market.bob
        (5 * 10 ^ 18) false)
      (fun pool' => decide
        (pool'.underlyingBalance Market.weth ≠ fallenMarket.underlyingBalance Market.weth ∧
          (pool'.reserves Market.weth).calculateInterestRates 5
              (pool'.lendingRateOracle Market.weth) (pool'.underlyingBalance Market.weth) 0 0 ≠
            .ok (pool'.reserves Market.weth).storedRates)) = true := by decide +kernel
  obtain ⟨pool', hcall, hafter⟩ := succeedsWith_iff.mp liquidated
  simp only [decide_eq_true_eq] at hafter
  exact ⟨pool', hcall, .inl hafter.1, hafter.2⟩

/-- Carol covers the same debt and takes dai for it. -/
theorem fallenMarket_liquidation_described :
    ∃ pool', fallenMarket.liquidationCall 5 Market.carol Market.dai Market.weth Market.bob
        (5 * 10 ^ 18) false = .ok pool' ∧
      pool'.RatesDescribe 5 Market.weth ∧ pool'.RatesDescribe 5 Market.dai := by
  have liquidated : succeedsWith
      (fallenMarket.liquidationCall 5 Market.carol Market.dai Market.weth Market.bob
        (5 * 10 ^ 18) false)
      (fun pool' => decide
        (pool'.underlyingBalance Market.weth ≠ fallenMarket.underlyingBalance Market.weth ∧
          pool'.underlyingBalance Market.dai ≠ fallenMarket.underlyingBalance Market.dai)) =
        true := by decide +kernel
  obtain ⟨pool', hcall, hafter⟩ := succeedsWith_iff.mp liquidated
  simp only [decide_eq_true_eq] at hafter
  have carol : fallenMarket.NotELToken Market.carol :=
    fallenMarket_reachable.marked.listing.notELToken (by decide +kernel)
  have run : Steps ratesRules 5 fallenMarket pool' :=
    .call (.refl _) Market.carol
      (.liquidationCall Market.dai Market.weth Market.bob (5 * 10 ^ 18) false)
      ⟨carol, .inl (by decide)⟩ hcall
  obtain ⟨describe, _⟩ := stored_rates_describe_iff (t := 5)
  exact ⟨pool', hcall, describe _ _ run _ (.inl hafter.1), describe _ _ run _ (.inl hafter.2)⟩

end ElectroLend
