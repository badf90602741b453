import ElectroLend.Pool.CallDeeds

namespace ElectroLend

open Outcome

/-- A user who would have to repay something in the reserve. -/
def Reserve.Owes (r : Reserve) (u : Address) : Prop :=
  r.stableDebtToken.balances u ≠ 0 ∨ r.variableDebtToken.balances u ≠ 0

/-- The same listing, and indexes that have not gone down. -/
structure Reserve.SameListing (r r' : Reserve) : Prop where
  id : r'.id = r.id
  elToken : r'.elTokenAddress = r.elTokenAddress
  stableDebtToken : r'.stableDebtTokenAddress = r.stableDebtTokenAddress
  variableDebtToken : r'.variableDebtTokenAddress = r.variableDebtTokenAddress
  liquidityIndex : r.liquidityIndex ≤ r'.liquidityIndex
  variableBorrowIndex : r.variableBorrowIndex ≤ r'.variableBorrowIndex

theorem Reserve.SameListing.refl (r : Reserve) : r.SameListing r :=
  ⟨rfl, rfl, rfl, rfl, Nat.le_refl _, Nat.le_refl _⟩

theorem Reserve.SameListing.trans {r r' r'' : Reserve} (h : r.SameListing r')
    (h' : r'.SameListing r'') : r.SameListing r'' where
  id := h'.id.trans h.id
  elToken := h'.elToken.trans h.elToken
  stableDebtToken := h'.stableDebtToken.trans h.stableDebtToken
  variableDebtToken := h'.variableDebtToken.trans h.variableDebtToken
  liquidityIndex := h.liquidityIndex.trans h'.liquidityIndex
  variableBorrowIndex := h.variableBorrowIndex.trans h'.variableBorrowIndex

namespace LendingPool

/-- Nothing is listed or delisted. -/
structure ListFrame (pool pool' : LendingPool) : Prop where
  count : pool'.reservesCount = pool.reservesCount
  max : pool'.maxNumberOfReserves = pool.maxNumberOfReserves
  list : pool'.reservesList = pool.reservesList
  reserve : ∀ asset, (pool.reserves asset).SameListing (pool'.reserves asset)

theorem ListFrame.refl (pool : LendingPool) : pool.ListFrame pool :=
  ⟨rfl, rfl, rfl, fun _ => .refl _⟩

theorem ListFrame.trans {pool pool' pool'' : LendingPool} (h : pool.ListFrame pool')
    (h' : pool'.ListFrame pool'') : pool.ListFrame pool'' where
  count := h'.count.trans h.count
  max := h'.max.trans h.max
  list := h'.list.trans h.list
  reserve asset := (h.reserve asset).trans (h'.reserve asset)

/-- Nobody starts to owe anything, and no borrowing bit moves. -/
structure DebtFrame (pool pool' : LendingPool) : Prop where
  listing : pool.ListFrame pool'
  owes : ∀ asset u, (pool'.reserves asset).Owes u → (pool.reserves asset).Owes u
  bits : ∀ u i, (pool'.usersConfig u).borrowingBit i = (pool.usersConfig u).borrowingBit i

theorem DebtFrame.refl (pool : LendingPool) : pool.DebtFrame pool :=
  ⟨.refl pool, fun _ _ h => h, fun _ _ => rfl⟩

theorem DebtFrame.trans {pool pool' pool'' : LendingPool} (h : pool.DebtFrame pool')
    (h' : pool'.DebtFrame pool'') : pool.DebtFrame pool'' where
  listing := h.listing.trans h'.listing
  owes asset u ho := h.owes asset u (h'.owes asset u ho)
  bits u i := (h'.bits u i).trans (h.bits u i)

variable {pool pool' : LendingPool} {t amount index added taken : Nat} {asset elToken u v : Address}

theorem ListFrame.setReserve {r : Reserve} (h : (pool.reserves asset).SameListing r) :
    pool.ListFrame (pool.setReserve asset r) where
  count := rfl
  max := rfl
  list := rfl
  reserve := setReserve_forall (P := fun a => (pool.reserves a).SameListing) h fun _ => .refl _

theorem DebtFrame.setReserve {r : Reserve} (h : (pool.reserves asset).SameListing r)
    (ho : ∀ u, r.Owes u → (pool.reserves asset).Owes u) :
    pool.DebtFrame (pool.setReserve asset r) where
  listing := .setReserve h
  owes := setReserve_forall (P := fun a r' => ∀ u, r'.Owes u → (pool.reserves a).Owes u) ho
    fun _ _ hu => hu
  bits _ _ := rfl

theorem DebtFrame.setToken (pool : LendingPool) (asset : Address) (token : ERC20) :
    pool.DebtFrame (pool.setToken asset token) :=
  ⟨⟨rfl, rfl, rfl, fun _ => .refl _⟩, fun _ _ h => h, fun _ _ => rfl⟩

theorem DebtFrame.setUserConfig (pool : LendingPool) {config : UserConfigurationMap}
    (h : ∀ i, config.borrowingBit i = (pool.usersConfig u).borrowingBit i) :
    pool.DebtFrame (pool.setUserConfig u config) := by
  refine ⟨⟨rfl, rfl, rfl, fun _ => .refl _⟩, fun _ _ h => h, ?_⟩
  intro w i
  by_cases hw : w = u
  · subst hw
    simpa using h i
  · simp [hw]

theorem setELToken_debtFrame (pool : LendingPool) (asset : Address) (elToken : ELToken) :
    pool.DebtFrame (pool.setReserve asset { pool.reserves asset with elToken }) :=
  .setReserve ⟨rfl, rfl, rfl, rfl, Nat.le_refl _, Nat.le_refl _⟩ fun _ h => h

theorem burnVariableDebt_debtFrame (h : pool.burnVariableDebt asset u amount = .ok pool') :
    pool.DebtFrame pool' := by
  obtain ⟨token, hb, rfl⟩ := burnVariableDebt_eq_ok h
  obtain ⟨scaled, _, _, _, _, hbals, _⟩ := VariableDebtToken.burn_eq_ok hb
  refine .setReserve ⟨rfl, rfl, rfl, rfl, Nat.le_refl _, Nat.le_refl _⟩ ?_
  intro w hw
  obtain hs | hv := hw
  · exact .inl hs
  · refine .inr ?_
    rw [hbals] at hv
    by_cases hwu : w = u
    · subst hwu
      rw [Function.update_self] at hv
      omega
    · rwa [Function.update_of_ne hwu] at hv

theorem burnStableDebt_debtFrame (h : pool.burnStableDebt t asset u amount = .ok pool') :
    pool.DebtFrame pool' := by
  obtain ⟨token, hb, rfl⟩ := burnStableDebt_eq_ok h
  obtain ⟨balance, supply, hbal, _, _, hle, hbals, _⟩ := StableDebtToken.burn_eq_ok hb
  refine .setReserve ⟨rfl, rfl, rfl, rfl, Nat.le_refl _, Nat.le_refl _⟩ ?_
  intro w hw
  obtain hs | hv := hw
  · refine .inl ?_
    rw [hbals] at hs
    by_cases hwu : w = u
    · subst hwu
      rw [Function.update_self] at hs
      intro hz
      have hzero := ok_unique hbal (StableDebtToken.balanceOf_zero hz)
      omega
    · rwa [Function.update_of_ne hwu] at hs
  · exact .inr hv

end LendingPool

open LendingPool

/-- Neither opens the deed debt, nor does it touch a borrowing bit or the list. -/
def Deed.OpensNoDebt : Deed → Prop
  | mintDebt _ _ _ _ | convertStableDebt _ _ | markBorrowing _ | list _ _ => False
  | _ => True

variable {pool pool' : LendingPool} {t : Nat} {deed : Deed} {allowed : Deed → Prop}

theorem Did.debtFrame (h : Did t deed pool pool') (fine : deed.OpensNoDebt) :
    pool.DebtFrame pool' := by
  cases h with
  | updateState h =>
    obtain ⟨r, hr, rfl⟩ := updateState_eq_ok h
    obtain ⟨li, vi, minted, _, hli, hvi, rfl, _⟩ := Reserve.updateState_eq_ok hr
    exact .setReserve ⟨rfl, rfl, rfl, rfl, Reserve.le_nextLiquidityIndex hli,
      Reserve.le_nextVariableBorrowIndex hvi⟩ fun _ h => h
  | updateInterestRates h =>
    obtain ⟨r, hr, rfl⟩ := updateInterestRates_eq_ok h
    obtain ⟨rates, _, rfl⟩ := Reserve.updateInterestRates_eq_ok hr
    exact .setReserve ⟨rfl, rfl, rfl, rfl, Nat.le_refl _, Nat.le_refl _⟩ fun _ h => h
  | cumulateToLiquidityIndex h =>
    obtain ⟨liquidityIndex, hle, rfl⟩ := cumulateToLiquidityIndex_eq_ok h
    exact .setReserve ⟨rfl, rfl, rfl, rfl, hle, Nat.le_refl _⟩ fun _ h => h
  | mintELToken h =>
    obtain ⟨token, _, rfl⟩ := mintELToken_eq_ok h
    exact setELToken_debtFrame pool _ token
  | burnELToken h =>
    obtain ⟨elToken, token, _, rfl⟩ := burnELToken_eq_ok h
    exact (setELToken_debtFrame pool _ elToken).trans (.setToken _ _ token)
  | moveELToken h => exact setELToken_debtFrame pool _ _
  | spendELToken allowed scaled h => exact setELToken_debtFrame pool _ _
  | approveELToken h => exact setELToken_debtFrame pool _ _
  | lowerELTokenAllowance lower h => exact setELToken_debtFrame pool _ _
  | mintVariableDebt h => exact fine.elim
  | mintStableDebt nonzero h => exact fine.elim
  | burnVariableDebt h => exact burnVariableDebt_debtFrame h
  | burnStableDebt h => exact burnStableDebt_debtFrame h
  | convertStableDebt read burned minted => exact fine.elim
  | setUsingAsCollateral h =>
    obtain ⟨config, hc, rfl⟩ := setUsingAsCollateral_eq_ok h
    obtain ⟨_, _, hbits⟩ := UserConfigurationMap.setUsingAsCollateral_eq_ok hc
    exact .setUserConfig pool hbits
  | setBorrowing h => exact fine.elim
  | pull h =>
    obtain ⟨token, _, rfl⟩ := pullUnderlying_eq_ok h
    exact .setToken pool _ token
  | pay h =>
    obtain ⟨token, _, rfl⟩ := transferUnderlyingTo_eq_ok h
    exact .setToken pool _ token
  | sendToken h => exact .setToken pool _ _
  | spendToken h => exact .setToken pool _ _
  | approveToken h => exact .setToken pool _ _
  | listReserve h => exact fine.elim
  | setPause _ val => exact ⟨⟨rfl, rfl, rfl, fun _ => .refl _⟩, fun _ _ h => h, fun _ _ => rfl⟩
  | setPrices _ priceOracle lendingRateOracle =>
    exact ⟨⟨rfl, rfl, rfl, fun _ => .refl _⟩, fun _ _ h => h, fun _ _ => rfl⟩
  | _ => exact .setReserve ⟨rfl, rfl, rfl, rfl, Nat.le_refl _, Nat.le_refl _⟩ fun _ h => h

theorem Deeds.debtFrame (h : Deeds t allowed pool pool')
    (fine : ∀ deed, allowed deed → deed.OpensNoDebt) : pool.DebtFrame pool' :=
  h.invariant pool.DebtFrame
    (fun _ _ _ allowed frame did => frame.trans (did.debtFrame (fine _ allowed))) (.refl pool)

namespace LendingPool

variable {amount added taken : Nat} {asset elToken u v msgSender : Address}

theorem updateState_debtFrame (h : pool.updateState t asset = .ok pool') :
    pool.DebtFrame pool' :=
  (Did.updateState h).debtFrame trivial

theorem updateInterestRates_debtFrame
    (h : pool.updateInterestRates t asset elToken added taken = .ok pool') :
    pool.DebtFrame pool' :=
  (Did.updateInterestRates h).debtFrame trivial

theorem setUsingAsCollateral_debtFrame {i : Nat} {value : Bool}
    (h : pool.setUsingAsCollateral u i value = .ok pool') : pool.DebtFrame pool' :=
  (Did.setUsingAsCollateral (t := 0) h).debtFrame trivial

theorem pullUnderlying_debtFrame (h : pool.pullUnderlying asset u v amount = .ok pool') :
    pool.DebtFrame pool' :=
  (Did.pull (t := 0) h).debtFrame trivial

theorem transferUnderlyingTo_debtFrame
    (h : pool.transferUnderlyingTo asset u v amount = .ok pool') : pool.DebtFrame pool' :=
  (Did.pay (t := 0) h).debtFrame trivial

theorem cumulateToLiquidityIndex_debtFrame
    (h : pool.cumulateToLiquidityIndex asset amount = .ok pool') : pool.DebtFrame pool' :=
  (Did.cumulateToLiquidityIndex (t := 0) h).debtFrame trivial

theorem burnDebt_debtFrame {mode : InterestRateMode}
    (h : pool.burnDebt t asset u amount mode = .ok pool') : pool.DebtFrame pool' := by
  have deeds : Deeds t Deed.OpensNoDebt pool pool' := burnDebt_deeds trivial trivial h
  exact deeds.debtFrame fun _ fine => fine

theorem burnLiquidatedDebt_debtFrame {debt : Nat}
    (h : pool.burnLiquidatedDebt t asset u debt amount = .ok pool') : pool.DebtFrame pool' := by
  have deeds : Deeds t Deed.OpensNoDebt pool pool' := burnLiquidatedDebt_deeds trivial trivial h
  exact deeds.debtFrame fun _ fine => fine

theorem finalizeTransfer_debtFrame {caller : Address} {beforeFrom beforeTo : Nat}
    (h : pool.finalizeTransfer t caller asset u v amount beforeFrom beforeTo = .ok pool') :
    pool.DebtFrame pool' := by
  have deeds : Deeds t Deed.OpensNoDebt pool pool' := finalizeTransfer_deeds trivial trivial h
  exact deeds.debtFrame fun _ fine => fine

theorem deposit_debtFrame (h : pool.deposit t msgSender asset amount u = .ok pool') :
    pool.DebtFrame pool' :=
  (deposit_deeds h).debtFrame (by simp [Call.deeds, Deed.OpensNoDebt])

theorem withdraw_debtFrame {recipient : Address} {paid : Nat}
    (h : pool.withdraw t msgSender asset amount recipient = .ok (paid, pool')) :
    pool.DebtFrame pool' :=
  (withdraw_deeds h).debtFrame (by simp [Call.deeds, Deed.OpensNoDebt])

theorem elTokenTransfer_debtFrame
    (h : pool.elTokenTransfer t msgSender asset v amount = .ok pool') : pool.DebtFrame pool' :=
  (elTokenTransfer_deeds h).debtFrame (by simp [Call.deeds, Deed.OpensNoDebt])

theorem elTokenTransferFrom_debtFrame
    (h : pool.elTokenTransferFrom t msgSender asset u v amount = .ok pool') :
    pool.DebtFrame pool' :=
  (elTokenTransferFrom_deeds h).debtFrame (by simp [Call.deeds, Deed.OpensNoDebt])

theorem liquidationCall_debtFrame {collateralAsset debtAsset : Address} {receiveLToken : Bool}
    (h : pool.liquidationCall t msgSender collateralAsset debtAsset u amount receiveLToken =
      .ok pool') : pool.DebtFrame pool' :=
  (liquidationCall_deeds h).debtFrame (by simp [Call.deeds, Deed.OpensNoDebt])

theorem sendFlashLoan_debtFrame {receiver : Address} {loans : List (Address × Nat)}
    {entries : List FlashLoanEntry}
    (h : pool.sendFlashLoan receiver loans = .ok (entries, pool')) : pool.DebtFrame pool' := by
  have deeds : Deeds 0 (loanDeeds pool) pool pool' := sendFlashLoan_deeds h
  refine deeds.debtFrame ?_
  rintro _ ⟨asset, rfl⟩
  trivial

theorem returnFlashLoan_debtFrame {version : PoolVersion} {receiver : Address}
    {entry : FlashLoanEntry}
    (h : pool.returnFlashLoan t version receiver entry = .ok pool') : pool.DebtFrame pool' := by
  obtain ⟨p₁, p₂, p₃, h₁, h₂, h₃, h₄⟩ := returnFlashLoan_eq_ok h
  have moved := (updateState_debtFrame h₁).trans
    ((cumulateToLiquidityIndex_debtFrame h₂).trans (updateInterestRates_debtFrame h₃))
  obtain ⟨_, hpull⟩ | ⟨_, hpull⟩ := h₄
  · exact moved.trans (pullUnderlying_debtFrame hpull)
  · exact moved.trans (elTokenTransferFrom_debtFrame hpull)

end LendingPool

end ElectroLend
