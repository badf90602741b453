import ElectroLend.Pool.RatesFrame

namespace ElectroLend

open Outcome

namespace LendingPool

/-- The stored rates are those calculated from the state as it is. -/
def RatesDescribe (pool : LendingPool) (t : Nat) (asset : Address) : Prop :=
  (pool.reserves asset).calculateInterestRates t (pool.lendingRateOracle asset)
    (pool.underlyingBalance asset) 0 0 = .ok (pool.reserves asset).storedRates

/-- Neither the rates of the reserve nor anything they are calculated from has changed. -/
structure RatesKept (pool pool' : LendingPool) (asset : Address) : Prop where
  inputs : (pool'.reserves asset).rateInputs = (pool.reserves asset).rateInputs
  market : pool'.lendingRateOracle = pool.lendingRateOracle
  liquidity : pool'.underlyingBalance asset = pool.underlyingBalance asset

variable {pool pool' middle : LendingPool} {t amount liquidity : Nat} {asset u v : Address}

theorem RatesKept.trans {pool'' : LendingPool} (h : pool.RatesKept pool' asset)
    (h' : pool'.RatesKept pool'' asset) : pool.RatesKept pool'' asset where
  inputs := h'.inputs.trans h.inputs
  market := h'.market.trans h.market
  liquidity := h'.liquidity.trans h.liquidity

theorem RatesDescribe.kept (h : pool.RatesKept pool' asset) (hd : pool.RatesDescribe t asset) :
    pool'.RatesDescribe t asset := by
  rw [RatesDescribe, h.market, h.liquidity, Reserve.calculateInterestRates_congr h.inputs,
    Reserve.storedRates_of_rateInputs h.inputs]
  exact hd

theorem TouchesOnly.ratesKept (h : pool.TouchesOnly pool' asset) (a : Address) (ha : a ≠ asset) :
    pool.RatesKept pool' a where
  inputs := by rw [h.reserves a ha]
  market := h.market
  liquidity := by rw [underlyingBalance, underlyingBalance, h.reserves a ha, h.tokens a ha]

theorem RatesFrame.ratesKept (h : pool.RatesFrame pool') (ht : pool'.tokens = pool.tokens)
    (a : Address) : pool.RatesKept pool' a :=
  ⟨h.inputs a, h.market, h.underlyingBalance ht a⟩

/-- Of each reserve, either nothing the rates depend on has changed, or the rates describe the
state. -/
structure FollowRates (t : Nat) (pool pool' : LendingPool) : Prop where
  elToken : ∀ a, (pool'.reserves a).elTokenAddress = (pool.reserves a).elTokenAddress
  rates : ∀ a, pool.RatesKept pool' a ∨ pool'.RatesDescribe t a

theorem FollowRates.refl (t : Nat) (pool : LendingPool) : pool.FollowRates t pool :=
  ⟨fun _ => rfl, fun _ => .inl ⟨rfl, rfl, rfl⟩⟩

theorem FollowRates.trans {pool'' : LendingPool} (h : FollowRates t pool pool')
    (h' : FollowRates t pool' pool'') : FollowRates t pool pool'' where
  elToken a := (h'.elToken a).trans (h.elToken a)
  rates a := by
    obtain kept' | describe := h'.rates a
    · obtain kept | describe := h.rates a
      · exact .inl (kept.trans kept')
      · exact .inr (describe.kept kept')
    · exact .inr describe

theorem FollowRates.of_frame (h : pool.RatesFrame pool') (ht : pool'.tokens = pool.tokens) :
    FollowRates t pool pool' :=
  ⟨h.elTokenAddress, fun a => .inl (h.ratesKept ht a)⟩

/-- The rates of one asset describe the state, and no others have any cause to change. -/
structure UpdatesRates (t : Nat) (pool pool' : LendingPool) (asset : Address) : Prop where
  elToken : ∀ a, (pool'.reserves a).elTokenAddress = (pool.reserves a).elTokenAddress
  describe : pool'.RatesDescribe t asset
  touches : pool.TouchesOnly pool' asset

theorem UpdatesRates.others (h : UpdatesRates t pool pool' asset) (a : Address) (ha : a ≠ asset) :
    pool.RatesKept pool' a :=
  h.touches.ratesKept a ha

theorem UpdatesRates.follow (h : UpdatesRates t pool pool' asset) : FollowRates t pool pool' where
  elToken := h.elToken
  rates a := by
    by_cases ha : a = asset
    · rw [ha]
      exact .inr h.describe
    · exact .inl (h.others a ha)

/-- After an update of the rates, an operation that leaves the liquidity they were updated for. -/
theorem UpdatesRates.of_ratesAt (books : pool.OnBooks middle asset)
    (hat : middle.RatesAt t asset liquidity) (touches : middle.TouchesOnly pool' asset)
    (frame : middle.RatesFrame pool') (hbal : pool'.underlyingBalance asset = liquidity) :
    UpdatesRates t pool pool' asset where
  elToken a := (frame.elTokenAddress a).trans (books.elTokenAddress a)
  describe := by
    have describe := hat.frame frame
    rw [← hbal] at describe
    exact describe
  touches := books.touches.trans touches

theorem UpdatesRates.of_books (books : pool.OnBooks pool' asset)
    (hat : pool'.RatesAt t asset (pool.underlyingBalance asset)) :
    UpdatesRates t pool pool' asset :=
  .of_ratesAt books hat (.refl _ _) (.refl _) books.underlyingBalance

theorem deposit_updatesRates {msgSender onBehalfOf : Address}
    (hs : (pool.reserves asset).elTokenAddress ≠ 0 →
      msgSender ≠ (pool.reserves asset).elTokenAddress)
    (h : pool.deposit t msgSender asset amount onBehalfOf = .ok pool') :
    UpdatesRates t pool pool' asset := by
  obtain ⟨p₁, p₂, p₃, first, p₄, h₁, h₂, h₃, h₄, hbit⟩ := deposit_eq_ok h
  obtain ⟨books, _, hat⟩ := (updateState_onBooks h₁).updateInterestRates h₂
  have pulled := pullUnderlying_ratesFrame h₃
  have frame : p₂.RatesFrame p₄ := pulled.trans (mintELToken_ratesFrame h₄)
  have touches := (pullUnderlying_touches h₃).trans (mintELToken_touches h₄)
  have received : p₃.underlyingBalance asset = pool.underlyingBalance asset + amount := by
    rw [← books.elToken] at h₃ hs
    rw [pullUnderlying_balance hs h₃, books.underlyingBalance]
  have minted : p₄.underlyingBalance asset = pool.underlyingBalance asset + amount := by
    rw [(mintELToken_ratesFrame h₄).underlyingBalance (mintELToken_tokens h₄), received]
  obtain ⟨_, hset⟩ | ⟨_, rfl⟩ := hbit
  · have bit := setUsingAsCollateral_ratesFrame hset
    refine .of_ratesAt books hat (touches.trans (setUsingAsCollateral_touches hset asset))
      (frame.trans bit) ?_
    rw [bit.underlyingBalance (setUsingAsCollateral_tokens hset), minted, Nat.sub_zero]
  · exact .of_ratesAt books hat touches frame minted

theorem withdraw_updatesRates {msgSender recipient : Address} {paid : Nat}
    (hr : (pool.reserves asset).elTokenAddress ≠ 0 →
      recipient ≠ (pool.reserves asset).elTokenAddress)
    (h : pool.withdraw t msgSender asset amount recipient = .ok (paid, pool')) :
    UpdatesRates t pool pool' asset := by
  obtain ⟨_, p₁, p₂, p₃, _, _, h₁, h₂, hbit, h₄, _⟩ := withdraw_eq_ok h
  obtain ⟨books, _, hat⟩ := (updateState_onBooks h₁).updateInterestRates h₂
  obtain ⟨bits, frame, htokens⟩ : p₂.TouchesOnly p₃ asset ∧ p₂.RatesFrame p₃ ∧
      p₃.tokens = p₂.tokens := by
    obtain ⟨config, rfl⟩ := updateUserConfig_if hbit
    exact ⟨(Stored.bits msgSender config).touches, ⟨fun _ => rfl, rfl⟩, rfl⟩
  rw [← books.elTokenAddress, ← frame.elTokenAddress] at hr
  obtain ⟨_, sent⟩ := burnELToken_balance hr h₄
  refine .of_ratesAt books hat (bits.trans (burnELToken_touches h₄))
    (frame.trans (burnELToken_ratesFrame h₄)) ?_
  rw [sent, frame.underlyingBalance htokens, books.underlyingBalance, Nat.add_zero]

theorem executeBorrow_updatesRates {vars : ExecuteBorrowParams}
    (hu : vars.releaseUnderlying = true → pool.NotELToken vars.user)
    (hel : vars.elTokenAddress = (pool.reserves vars.asset).elTokenAddress)
    (h : pool.executeBorrow t vars = .ok pool') : UpdatesRates t pool pool' vars.asset := by
  obtain ⟨p₁, first, p₂, p₃, p₄, _, h₁, h₂, hbit, h₄, hsend⟩ := executeBorrow_eq_ok h
  have marked : p₂.OnBooks p₃ vars.asset := by
    obtain ⟨_, hset⟩ | ⟨_, rfl⟩ := hbit
    · exact setBorrowing_onBooks hset vars.asset
    · exact .refl _ _
  rw [hel] at h₄
  obtain ⟨books, _, hat⟩ := ((updateState_onBooks h₁).trans
    ((mintDebt_onBooks h₂).trans marked)).updateInterestRates h₄
  obtain ⟨hrelease, hsend⟩ | ⟨hkeep, rfl⟩ := hsend
  · rw [if_pos hrelease, Nat.add_zero] at hat
    rw [hel, ← books.elToken] at hsend
    obtain ⟨_, sent⟩ := transferUnderlyingTo_balance ((hu hrelease).congr books.elTokenAddress) hsend
    refine .of_ratesAt books hat (transferUnderlyingTo_touches hsend)
      (transferUnderlyingTo_ratesFrame hsend) ?_
    rw [sent, books.underlyingBalance]
  · rw [if_neg hkeep] at hat
    exact .of_books books hat

theorem borrow_updatesRates {msgSender onBehalfOf : Address} {mode : Nat}
    (hs : pool.NotELToken msgSender)
    (h : pool.borrow t msgSender asset amount mode onBehalfOf = .ok pool') :
    UpdatesRates t pool pool' asset := by
  simp only [borrow, bind_eq_ok] at h
  obtain ⟨_, _, hborrow⟩ := h
  exact executeBorrow_updatesRates (fun _ => hs) rfl hborrow

theorem repay_updatesRates {msgSender onBehalfOf : Address} {mode paid : Nat}
    (hs : (pool.reserves asset).elTokenAddress ≠ 0 →
      msgSender ≠ (pool.reserves asset).elTokenAddress)
    (h : pool.repay t msgSender asset amount mode onBehalfOf = .ok (paid, pool')) :
    UpdatesRates t pool pool' asset := by
  obtain ⟨_, _, mode, p₁, p₂, p₃, p₄, _, _, _, _, _, h₁, h₂, h₃, _, hbit, h₅⟩ := repay_eq_ok h
  obtain ⟨books, _, hat⟩ :=
    ((updateState_onBooks h₁).trans (burnDebt_onBooks h₂)).updateInterestRates h₃
  obtain ⟨bits, frame⟩ : p₃.OnBooks p₄ asset ∧ p₃.RatesFrame p₄ := by
    obtain ⟨_, hset⟩ | ⟨_, rfl⟩ := hbit
    · exact ⟨setBorrowing_onBooks hset asset, setBorrowing_ratesFrame hset⟩
    · exact ⟨.refl _ _, .refl _⟩
  have marked := books.trans bits
  rw [← marked.elToken] at h₅ hs
  have received := pullUnderlying_balance hs h₅
  refine .of_ratesAt books hat (bits.touches.trans (pullUnderlying_touches h₅))
    (frame.trans (pullUnderlying_ratesFrame h₅)) ?_
  rw [received, marked.underlyingBalance, Nat.sub_zero]

theorem swapBorrowRateMode_updatesRates {msgSender : Address} {mode : Nat}
    (h : pool.swapBorrowRateMode t msgSender asset mode = .ok pool') :
    UpdatesRates t pool pool' asset := by
  obtain ⟨_, _, _, p₁, _, p₂, _, _, _, _, h₁, h₂, h₃⟩ := swapBorrowRateMode_eq_ok h
  have swapped := (updateState_onBooks h₁).trans (swapDebt_onBooks h₂)
  rw [swapped.elToken] at h₃
  obtain ⟨books, _, hat⟩ := swapped.updateInterestRates h₃
  exact .of_books books hat

theorem rebalanceStableBorrowRate_updatesRates
    (h : pool.rebalanceStableBorrowRate t asset u = .ok pool') :
    UpdatesRates t pool pool' asset := by
  obtain ⟨_, p₁, p₂, _, p₃, _, h₁, h₂, h₃, h₄⟩ := rebalanceStableBorrowRate_eq_ok h
  have converted := ((Did.burnStableDebt h₂).onBooks rfl trivial).trans (mintVariableDebt_onBooks h₃)
  obtain ⟨books, _, hat⟩ := ((updateState_onBooks h₁).trans converted).updateInterestRates h₄
  exact .of_books books hat

theorem returnFlashLoan_updatesRates {receiver : Address} {entry : FlashLoanEntry}
    (hr : pool.NotELToken receiver)
    (hel : entry.elTokenAddress = (pool.reserves entry.asset).elTokenAddress)
    (h : pool.returnFlashLoan t .lendingPool receiver entry = .ok pool') :
    UpdatesRates t pool pool' entry.asset := by
  obtain ⟨p₁, p₂, p₃, h₁, h₂, h₃, h₄⟩ := returnFlashLoan_pulls h
  rw [hel] at h₃
  obtain ⟨books, _, hat⟩ := ((updateState_onBooks h₁).trans
    (cumulateToLiquidityIndex_onBooks h₂)).updateInterestRates h₃
  rw [hel, ← books.elToken] at h₄
  have received := pullUnderlying_balance (hr.congr books.elTokenAddress _) h₄
  refine .of_ratesAt books hat (pullUnderlying_touches h₄) (pullUnderlying_ratesFrame h₄) ?_
  rw [received, books.underlyingBalance, Nat.sub_zero]

theorem RatesAt.kept (h : pool.RatesKept pool' asset) (hat : pool.RatesAt t asset liquidity) :
    pool'.RatesAt t asset liquidity := by
  rw [RatesAt, h.market]
  exact Reserve.RatesAt.congr h.inputs hat

theorem seizeELToken_frame (h : pool.seizeELToken t v asset u amount = .ok pool') :
    pool.RatesFrame pool' ∧ pool'.tokens = pool.tokens := by
  simp only [seizeELToken, bind_eq_ok, ite_eq_ok, Except.ok.injEq] at h
  obtain ⟨p₁, htransfer, ⟨_, hset⟩ | ⟨_, rfl⟩⟩ := h
  · exact ⟨(transferELToken_ratesFrame htransfer).trans (setUsingAsCollateral_ratesFrame hset),
      (setUsingAsCollateral_tokens hset).trans (transferELToken_tokens htransfer)⟩
  · exact ⟨transferELToken_ratesFrame htransfer, transferELToken_tokens htransfer⟩

theorem seizeUnderlying_updatesRates (hv : pool.NotELToken v)
    (h : pool.seizeUnderlying t v asset u amount = .ok pool') :
    amount ≤ pool.underlyingBalance asset ∧
      pool'.underlyingBalance asset = pool.underlyingBalance asset - amount ∧
      UpdatesRates t pool pool' asset := by
  simp only [seizeUnderlying, bind_eq_ok] at h
  obtain ⟨p₁, h₁, p₂, h₂, h₃⟩ := h
  obtain ⟨books, _, hat⟩ := (updateState_onBooks h₁).updateInterestRates h₂
  obtain ⟨hle, sent⟩ := burnELToken_balance (hv.congr books.elTokenAddress asset) h₃
  rw [books.underlyingBalance] at hle sent
  exact ⟨hle, sent, .of_ratesAt books hat (burnELToken_touches h₃) (burnELToken_ratesFrame h₃) sent⟩

theorem burnLiquidatedDebt_pos {debt : Nat}
    (h : pool.burnLiquidatedDebt t asset u debt amount = .ok pool') : 0 < amount := by
  obtain ⟨_, hb⟩ | ⟨hlt, _⟩ := ite_eq_ok.mp h
  · obtain ⟨_, hburn, _⟩ := burnVariableDebt_eq_ok hb
    obtain ⟨scaled, hd, hz, _⟩ := VariableDebtToken.burn_eq_ok hburn
    by_contra hzero
    rw [Nat.eq_zero_of_not_pos hzero] at hd
    obtain ⟨_, rfl⟩ := rayDiv_eq_ok.mp hd
    simp at hz
  · omega

/-- The debt side of a liquidation, up to the payment of the liquidator: the rates are those of the
liquidity with the debt covered. -/
theorem liquidationCall_chain {collateralAsset debtAsset : Address} {debtToCover : Nat}
    {receiveLToken : Bool} (h : pool.liquidationCall t v collateralAsset debtAsset u debtToCover
      receiveLToken = .ok pool') :
    ∃ collateral covered paid seized marked, 0 < covered ∧
      pool.OnBooks paid debtAsset ∧
      paid.RatesAt t debtAsset (pool.underlyingBalance debtAsset + covered) ∧
      paid.seizeCollateral t v collateralAsset u collateral receiveLToken = .ok seized ∧
      marked.reserves = seized.reserves ∧ seized.RatesFrame marked ∧
      marked.tokens = seized.tokens ∧
      marked.pullUnderlying debtAsset v (pool.reserves debtAsset).elTokenAddress covered =
        .ok pool' := by
  obtain ⟨debt, seized, marked, hcover, _, hseize, hbit, hpull⟩ := liquidationCall_eq_ok h
  obtain ⟨_, _, _, _, accrued, burned, _, _, _, _, _, _, _, h₁, h₂, h₃⟩ := coverDebt_eq_ok hcover
  obtain ⟨books, _, hat⟩ :=
    ((updateState_onBooks h₁).trans (burnLiquidatedDebt_onBooks h₂)).updateInterestRates h₃
  obtain ⟨same, frame, htokens⟩ : marked.reserves = seized.reserves ∧ seized.RatesFrame marked ∧
      marked.tokens = seized.tokens := by
    obtain ⟨config, rfl⟩ := updateUserConfig_if hbit
    exact ⟨rfl, ⟨fun _ => rfl, rfl⟩, rfl⟩
  exact ⟨_, _, debt.pool, seized, marked, burnLiquidatedDebt_pos h₂, books, hat, hseize, same,
    frame, htokens, hpull⟩

theorem liquidationCall_followRates {collateralAsset debtAsset : Address} {debtToCover : Nat}
    {receiveLToken : Bool} (hv : pool.NotELToken v)
    (hcase : collateralAsset ≠ debtAsset ∨ receiveLToken = true)
    (h : pool.liquidationCall t v collateralAsset debtAsset u debtToCover receiveLToken =
      .ok pool') : FollowRates t pool pool' := by
  obtain ⟨collateral, covered, paid, seized, marked, _, books, hat, hseize, _, frame, htokens,
    hpull⟩ := liquidationCall_chain h
  -- the seizure keeps the rates of the debt asset, whichever way the collateral is taken
  obtain ⟨follows, kept⟩ : FollowRates t paid seized ∧ paid.RatesKept seized debtAsset := by
    obtain ⟨_, htransfer⟩ | ⟨hflag, hburn⟩ := ite_eq_ok.mp hseize
    · obtain ⟨moves, hsame⟩ := seizeELToken_frame htransfer
      exact ⟨.of_frame moves hsame, moves.ratesKept hsame debtAsset⟩
    · obtain ⟨_, _, updates⟩ := seizeUnderlying_updatesRates (hv.congr books.elTokenAddress) hburn
      have hne : debtAsset ≠ collateralAsset := by
        obtain hne | hreceive := hcase
        · exact Ne.symm hne
        · exact absurd hreceive hflag
      exact ⟨updates.follow, updates.others debtAsset hne⟩
  have toMarked : FollowRates t paid marked := follows.trans (.of_frame frame htokens)
  have keptDebt := kept.trans (frame.ratesKept htokens debtAsset)
  have address : ∀ a, (marked.reserves a).elTokenAddress = (pool.reserves a).elTokenAddress :=
    fun a => (toMarked.elToken a).trans (books.elTokenAddress a)
  have pulled := pullUnderlying_ratesFrame hpull
  rw [← address debtAsset] at hpull
  have received := pullUnderlying_balance (hv.congr address _) hpull
  refine ⟨fun a => (pulled.elTokenAddress a).trans (address a), ?_⟩
  intro a
  by_cases ha : a = debtAsset
  · subst ha
    have describe := (hat.kept keptDebt).frame pulled
    rw [← books.underlyingBalance, ← keptDebt.liquidity, ← received] at describe
    exact .inr describe
  · have keptPull := (pullUnderlying_touches hpull).ratesKept a ha
    obtain keptSeizure | describe := toMarked.rates a
    · exact .inl ((books.touches.ratesKept a ha).trans (keptSeizure.trans keptPull))
    · exact .inr (describe.kept keptPull)

/-- Underlying taken as collateral of a debt in itself: the second update of the rates forgets the
debt that is still to be paid in. -/
theorem liquidationCall_same_asset {debtToCover : Nat} (hv : pool.NotELToken v)
    (h : pool.liquidationCall t v asset asset u debtToCover false = .ok pool') :
    ∃ left covered, 0 < covered ∧ pool'.underlyingBalance asset = left + covered ∧
      pool'.RatesAt t asset left := by
  obtain ⟨collateral, covered, paid, seized, marked, hpos, books, _, hseize, _, frame, htokens,
    hpull⟩ := liquidationCall_chain h
  obtain ⟨_, sent, updates⟩ := seizeUnderlying_updatesRates (hv.congr books.elTokenAddress)
    (show paid.seizeUnderlying t v asset u collateral = .ok seized from hseize)
  have address : ∀ a, (marked.reserves a).elTokenAddress = (pool.reserves a).elTokenAddress :=
    fun a => (frame.elTokenAddress a).trans ((updates.elToken a).trans (books.elTokenAddress a))
  have pulled := pullUnderlying_ratesFrame hpull
  rw [← address asset] at hpull
  have received := pullUnderlying_balance (hv.congr address _) hpull
  rw [frame.underlyingBalance htokens] at received
  exact ⟨seized.underlyingBalance asset, covered, hpos, received,
    (RatesAt.frame frame updates.describe).frame pulled⟩

end LendingPool

end ElectroLend
