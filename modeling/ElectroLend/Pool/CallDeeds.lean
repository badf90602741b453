import ElectroLend.Pool.Deeds

namespace ElectroLend

open Outcome

namespace LendingPool

variable {pool pool' : LendingPool} {t amount : Nat} {asset u v msgSender : Address}

section Parts

variable {allowed : Deed → Prop}

theorem setUsingAsCollateral_deeds {c : Prop} {i : Nat} {value : Bool}
    (fine : allowed (.markCollateral u))
    (h : (c ∧ pool.setUsingAsCollateral u i value = .ok pool') ∨ (¬c ∧ pool = pool')) :
    Deeds t allowed pool pool' := by
  obtain ⟨_, hset⟩ | ⟨_, rfl⟩ := h
  · exact (Did.setUsingAsCollateral hset).deeds fine
  · exact .refl _

theorem setBorrowing_deeds {c : Prop} {i : Nat} {value : Bool}
    (fine : allowed (.markBorrowing u))
    (h : (c ∧ pool.setBorrowing u i value = .ok pool') ∨ (¬c ∧ pool = pool')) :
    Deeds t allowed pool pool' := by
  obtain ⟨_, hset⟩ | ⟨_, rfl⟩ := h
  · exact (Did.setBorrowing hset).deeds fine
  · exact .refl _

theorem burnDebt_deeds {mode : InterestRateMode} (stable : allowed (.burnDebt asset .stable u))
    (variableDebt : allowed (.burnDebt asset .variable u))
    (h : pool.burnDebt t asset u amount mode = .ok pool') : Deeds t allowed pool pool' := by
  obtain ⟨_, hburn⟩ | ⟨_, hburn⟩ := ite_eq_ok.mp h
  · exact (Did.burnStableDebt hburn).deeds stable
  · exact (Did.burnVariableDebt hburn).deeds variableDebt

/-- Debt is minted for an amount that the validation has found not to be zero. -/
theorem mintDebt_deeds {vars : ExecuteBorrowParams} {first : Bool}
    (stable : allowed (.mintDebt vars.asset .stable vars.user vars.onBehalfOf))
    (variableDebt : allowed (.mintDebt vars.asset .variable vars.user vars.onBehalfOf))
    (nonzero : vars.amount ≠ 0) (h : pool.mintDebt t vars = .ok (first, pool')) :
    Deeds t allowed pool pool' := by
  simp only [mintDebt, bind_eq_ok, ite_eq_ok] at h
  obtain ⟨mode, _, ⟨_, hmint⟩ | ⟨_, hmint⟩⟩ := h
  · exact (Did.mintStableDebt nonzero hmint).deeds stable
  · exact (Did.mintVariableDebt hmint).deeds variableDebt

theorem validateBorrow_amount {value mode : Nat}
    (h : pool.validateBorrow t asset u amount value mode = .ok ()) : amount ≠ 0 := by
  simp only [validateBorrow, bind_eq_ok, require_eq_ok] at h
  obtain ⟨_, _, _, _, _, hne, _⟩ := h
  exact hne

theorem executeBorrow_deeds {vars : ExecuteBorrowParams}
    (upkeep : allowed (.upkeep vars.asset))
    (stable : allowed (.mintDebt vars.asset .stable vars.user vars.onBehalfOf))
    (variableDebt : allowed (.mintDebt vars.asset .variable vars.user vars.onBehalfOf))
    (mark : allowed (.markBorrowing vars.onBehalfOf))
    (pay : vars.releaseUnderlying = true → allowed (.pay vars.asset vars.elTokenAddress))
    (h : pool.executeBorrow t vars = .ok pool') : Deeds t allowed pool pool' := by
  obtain ⟨p₁, first, p₂, p₃, p₄, hvalid, h₁, h₂, hbit, h₄, hsend⟩ := executeBorrow_eq_ok h
  have accrued : Deeds t allowed pool p₁ := (Did.updateState h₁).deeds upkeep
  have minted : Deeds t allowed p₁ p₂ :=
    mintDebt_deeds stable variableDebt (validateBorrow_amount hvalid) h₂
  have marked : Deeds t allowed p₂ p₃ := setBorrowing_deeds mark hbit
  have rated : Deeds t allowed pool p₄ :=
    (accrued.trans (minted.trans marked)).tail upkeep (.updateInterestRates h₄)
  obtain ⟨release, hsend⟩ | ⟨_, rfl⟩ := hsend
  · exact rated.tail (pay release) (.pay hsend)
  · exact rated

theorem finalizeTransfer_deeds {caller : Address} {beforeFrom beforeTo : Nat}
    (sender : allowed (.markCollateral u)) (recipient : allowed (.markCollateral v))
    (h : pool.finalizeTransfer t caller asset u v amount beforeFrom beforeTo = .ok pool') :
    Deeds t allowed pool pool' := by
  obtain ⟨_, _, ⟨_, rfl⟩ | ⟨_, _, middle, hfrom, hto⟩⟩ := finalizeTransfer_eq_ok h
  · exact .refl _
  · have cleared : Deeds t allowed pool middle := setUsingAsCollateral_deeds sender hfrom
    obtain ⟨_, _, hset⟩ | ⟨_, rfl⟩ := hto
    · exact cleared.tail recipient (.setUsingAsCollateral hset)
    · exact cleared

theorem transferELToken_deeds {validate : Bool} (move : allowed (.moveELToken asset u v))
    (sender : allowed (.markCollateral u)) (recipient : allowed (.markCollateral v))
    (h : pool.transferELToken t asset u v amount validate = .ok pool') :
    Deeds t allowed pool pool' := by
  obtain ⟨_, _, _, _, balances, _, _, _, _, hmove, _, rfl, hfin⟩ := transferELToken_eq_ok h
  have moved := (Did.moveELToken (t := t) hmove).deeds move
  obtain ⟨_, hfin⟩ | ⟨_, rfl⟩ := hfin
  · exact moved.trans (finalizeTransfer_deeds sender recipient hfin)
  · exact moved

theorem seizeELToken_deeds (move : allowed (.moveELToken asset u v))
    (mark : allowed (.markCollateral v)) (h : pool.seizeELToken t v asset u amount = .ok pool') :
    Deeds t allowed pool pool' := by
  simp only [seizeELToken, bind_eq_ok, ite_eq_ok, Except.ok.injEq] at h
  obtain ⟨_, htransfer, hset⟩ := h
  obtain ⟨_, _, _, _, balances, _, _, _, _, hmove, _, rfl, ⟨hvalidate, _⟩ | ⟨_, rfl⟩⟩ :=
    transferELToken_eq_ok htransfer
  · cases hvalidate
  · have moved := (Did.moveELToken (t := t) hmove).deeds move
    obtain ⟨_, hset⟩ | ⟨_, rfl⟩ := hset
    · exact moved.tail mark (.setUsingAsCollateral hset)
    · exact moved

theorem burnLiquidatedDebt_deeds {debt : Nat} (stable : allowed (.burnDebt asset .stable u))
    (variableDebt : allowed (.burnDebt asset .variable u))
    (h : pool.burnLiquidatedDebt t asset u debt amount = .ok pool') :
    Deeds t allowed pool pool' := by
  obtain ⟨_, hb⟩ | ⟨_, middle, hb, hs⟩ := burnLiquidatedDebt_eq_ok h
  · exact (Did.burnVariableDebt hb).deeds variableDebt
  · have burned : Deeds t allowed pool middle := by
      obtain ⟨_, hb⟩ | ⟨_, rfl⟩ := hb
      · exact (Did.burnVariableDebt hb).deeds variableDebt
      · exact .refl _
    exact burned.tail stable (.burnStableDebt hs)

theorem seizeCollateral_deeds {receiveLToken : Bool} (upkeep : allowed (.upkeep asset))
    (move : allowed (.moveELToken asset u v)) (burn : allowed (.burnELToken asset u))
    (mark : allowed (.markCollateral v))
    (h : pool.seizeCollateral t v asset u amount receiveLToken = .ok pool') :
    Deeds t allowed pool pool' := by
  obtain ⟨_, moved, htransfer, hbit⟩ | ⟨_, p₁, p₂, h₁, h₂, h₃⟩ := seizeCollateral_eq_ok h
  · obtain ⟨_, _, _, _, balances, _, _, _, _, hmove, _, rfl, ⟨hvalidate, _⟩ | ⟨_, rfl⟩⟩ :=
      transferELToken_eq_ok htransfer
    · cases hvalidate
    · exact ((Did.moveELToken hmove).deeds move).trans (setUsingAsCollateral_deeds mark hbit)
  · have accrued : Deeds t allowed pool p₁ := (Did.updateState h₁).deeds upkeep
    exact (accrued.tail upkeep (.updateInterestRates h₂)).tail burn (.burnELToken h₃)

end Parts

theorem deposit_deeds (h : pool.deposit t msgSender asset amount u = .ok pool') :
    Deeds t (· ∈ (Call.deposit asset amount u).deeds pool msgSender) pool pool' := by
  obtain ⟨p₁, p₂, p₃, first, p₄, h₁, h₂, h₃, h₄, hbit⟩ := deposit_eq_ok h
  have accrued : Deeds t (· ∈ (Call.deposit asset amount u).deeds pool msgSender) pool p₁ :=
    (Did.updateState h₁).deeds (by simp [Call.deeds])
  have rated := accrued.tail (by simp [Call.deeds]) (.updateInterestRates h₂)
  have paid := rated.tail (by simp [Call.deeds]) (.pull h₃)
  have minted := paid.tail (by simp [Call.deeds]) (.mintELToken h₄)
  exact minted.trans (setUsingAsCollateral_deeds (by simp [Call.deeds]) hbit)

theorem withdraw_deeds {recipient : Address} {paid : Nat}
    (h : pool.withdraw t msgSender asset amount recipient = .ok (paid, pool')) :
    Deeds t (· ∈ (Call.withdraw asset amount recipient).deeds pool msgSender) pool pool' := by
  obtain ⟨_, p₁, p₂, p₃, _, _, h₁, h₂, hbit, h₄, _⟩ := withdraw_eq_ok h
  have accrued :
      Deeds t (· ∈ (Call.withdraw asset amount recipient).deeds pool msgSender) pool p₁ :=
    (Did.updateState h₁).deeds (by simp [Call.deeds])
  have rated := accrued.tail (by simp [Call.deeds]) (.updateInterestRates h₂)
  have marked := rated.trans (setUsingAsCollateral_deeds (by simp [Call.deeds]) hbit)
  exact marked.tail (by simp [Call.deeds]) (.burnELToken h₄)

theorem borrow_deeds {mode : Nat} (h : pool.borrow t msgSender asset amount mode u = .ok pool') :
    Deeds t (· ∈ (Call.borrow asset amount mode u).deeds pool msgSender) pool pool' := by
  simp only [borrow, bind_eq_ok] at h
  obtain ⟨_, _, hexec⟩ := h
  refine executeBorrow_deeds ?_ ?_ ?_ ?_ ?_ hexec
  all_goals simp [Call.deeds]

theorem repay_deeds {mode paid : Nat}
    (h : pool.repay t msgSender asset amount mode u = .ok (paid, pool')) :
    Deeds t (· ∈ (Call.repay asset amount mode u).deeds pool msgSender) pool pool' := by
  obtain ⟨_, _, _, p₁, p₂, p₃, p₄, _, _, _, _, _, h₁, h₂, h₃, _, hbit, h₅⟩ := repay_eq_ok h
  have accrued : Deeds t (· ∈ (Call.repay asset amount mode u).deeds pool msgSender) pool p₁ :=
    (Did.updateState h₁).deeds (by simp [Call.deeds])
  have burned := accrued.trans
    (burnDebt_deeds (by simp [Call.deeds]) (by simp [Call.deeds]) h₂)
  have rated := burned.tail (by simp [Call.deeds]) (.updateInterestRates h₃)
  have cleared := rated.trans (setBorrowing_deeds (by simp [Call.deeds]) hbit)
  exact cleared.tail (by simp [Call.deeds]) (.pull h₅)

theorem swapBorrowRateMode_deeds {mode : Nat}
    (h : pool.swapBorrowRateMode t msgSender asset mode = .ok pool') :
    Deeds t (· ∈ (Call.swapBorrowRateMode asset mode).deeds pool msgSender) pool pool' := by
  obtain ⟨stable, variableDebt, rateMode, p₁, first, p₂, _, _, _, hvalid, h₁, hswap, h₃⟩ :=
    swapBorrowRateMode_eq_ok h
  have accrued :
      Deeds t (· ∈ (Call.swapBorrowRateMode asset mode).deeds pool msgSender) pool p₁ :=
    (Did.updateState h₁).deeds (by simp [Call.deeds])
  simp only [swapDebt, ite_eq_ok, bind_eq_ok] at hswap
  have swapped : Deeds t (· ∈ (Call.swapBorrowRateMode asset mode).deeds pool msgSender) p₁ p₂ := by
    obtain ⟨_, middle, hburn, hmint⟩ | ⟨hmode, middle, hburn, hmint⟩ := hswap
    · exact ((Did.burnStableDebt hburn).deeds (by simp [Call.deeds])).tail (by simp [Call.deeds])
        (.mintVariableDebt hmint)
    · exact ((Did.burnVariableDebt hburn).deeds (by simp [Call.deeds])).tail
        (by simp [Call.deeds]) (.mintStableDebt (burnVariableDebt_amount hburn) hmint)
  exact (accrued.trans swapped).tail (by simp [Call.deeds]) (.updateInterestRates h₃)

/-- The stable debt is read before the accrual, which does not change it. -/
theorem rebalanceStableBorrowRate_deeds
    (h : pool.rebalanceStableBorrowRate t asset u = .ok pool') :
    Deeds t (· ∈ (Call.rebalanceStableBorrowRate asset u).deeds pool msgSender) pool pool' := by
  obtain ⟨stable, p₁, p₂, first, p₃, hread, h₁, h₂, h₃, h₄⟩ := rebalanceStableBorrowRate_eq_ok h
  have accrued :
      Deeds t (· ∈ (Call.rebalanceStableBorrowRate asset u).deeds pool msgSender) pool p₁ :=
    (Did.updateState h₁).deeds (by simp [Call.deeds])
  have read : (p₁.reserves asset).stableDebtToken.balanceOf t u = .ok stable := by
    obtain ⟨r, hr, rfl⟩ := updateState_eq_ok h₁
    obtain ⟨_, _, _, _, _, _, rfl, _⟩ := Reserve.updateState_eq_ok hr
    simp only [Reserve.stableDebtBalanceOf, bind_eq_ok] at hread
    obtain ⟨_, _, hread⟩ := hread
    simpa using hread
  have converted := accrued.tail (by simp [Call.deeds]) (.convertStableDebt read h₂ h₃)
  exact converted.tail (by simp [Call.deeds]) (.updateInterestRates h₄)

theorem setUserUseReserveAsCollateral_deeds {value : Bool}
    (h : pool.setUserUseReserveAsCollateral t msgSender asset value = .ok pool') :
    Deeds t (· ∈ (Call.setUserUseReserveAsCollateral asset value).deeds pool msgSender)
      pool pool' := by
  simp only [setUserUseReserveAsCollateral, bind_eq_ok] at h
  obtain ⟨_, _, _, _, hset⟩ := h
  exact (Did.setUsingAsCollateral hset).deeds (by simp [Call.deeds])

theorem liquidationCall_deeds {collateralAsset debtAsset : Address} {receiveLToken : Bool}
    (h : pool.liquidationCall t msgSender collateralAsset debtAsset u amount receiveLToken =
      .ok pool') :
    Deeds t (· ∈ (Call.liquidationCall collateralAsset debtAsset u amount receiveLToken).deeds
      pool msgSender) pool pool' := by
  obtain ⟨debt, seized, marked, hcover, _, hseize, hbit, hpull⟩ := liquidationCall_eq_ok h
  obtain ⟨_, _, _, _, p₁, p₂, _, _, _, _, _, _, _, h₁, h₂, h₃⟩ := coverDebt_eq_ok hcover
  have accrued : Deeds t (· ∈ (Call.liquidationCall collateralAsset debtAsset u amount
      receiveLToken).deeds pool msgSender) pool p₁ :=
    (Did.updateState h₁).deeds (by simp [Call.deeds])
  have burned := accrued.trans
    (burnLiquidatedDebt_deeds (by simp [Call.deeds]) (by simp [Call.deeds]) h₂)
  have rated := burned.tail (by simp [Call.deeds]) (.updateInterestRates h₃)
  have taken := rated.trans (seizeCollateral_deeds (by simp [Call.deeds]) (by simp [Call.deeds])
    (by simp [Call.deeds]) (by simp [Call.deeds]) hseize)
  have cleared := taken.trans (setUsingAsCollateral_deeds (by simp [Call.deeds]) hbit)
  exact cleared.tail (by simp [Call.deeds]) (.pull hpull)

theorem elTokenTransfer_deeds (h : pool.elTokenTransfer t msgSender asset v amount = .ok pool') :
    Deeds t (· ∈ (Call.elTokenTransfer asset v amount).deeds pool msgSender) pool pool' := by
  simp only [elTokenTransfer, requireContract, bind_eq_ok, require_eq_ok] at h
  obtain ⟨_, _, htransfer⟩ := h
  exact transferELToken_deeds (by simp [Call.deeds]) (by simp [Call.deeds])
    (by simp [Call.deeds]) htransfer

theorem finalizeTransfer_reserves {caller : Address} {beforeFrom beforeTo : Nat}
    (h : pool.finalizeTransfer t caller asset u v amount beforeFrom beforeTo = .ok pool') :
    pool'.reserves = pool.reserves := by
  obtain ⟨_, _, ⟨_, rfl⟩ | ⟨_, _, middle, hfrom, hto⟩⟩ := finalizeTransfer_eq_ok h
  · rfl
  · obtain ⟨_, rfl⟩ := updateUserConfig_if hfrom
    obtain ⟨_, _, hset⟩ | ⟨_, rfl⟩ := hto
    · obtain ⟨_, _, rfl⟩ := setUsingAsCollateral_eq_ok hset
      rfl
    · rfl

/-- The allowance that is lowered at the end is the one that allowed the transfer. -/
theorem elTokenTransferFrom_deeds
    (h : pool.elTokenTransferFrom t msgSender asset u v amount = .ok pool') :
    Deeds t (· ∈ (Call.elTokenTransferFrom asset u v amount).deeds pool msgSender) pool pool' := by
  obtain ⟨moved, elToken, _, htransfer, hle, happrove, rfl⟩ := elTokenTransferFrom_eq_ok h
  obtain ⟨_, _, _, _, balances, _, _, _, hscaled, hmove, _, rfl, ⟨_, hfin⟩ | ⟨hvalidate, _⟩⟩ :=
    transferELToken_eq_ok htransfer
  · have allowed : amount ≤ (pool.reserves asset).elToken.allowances u msgSender := by
      rw [finalizeTransfer_reserves hfin] at hle
      simpa using hle
    have spent :
        Deeds t (· ∈ (Call.elTokenTransferFrom asset u v amount).deeds pool msgSender) pool moved :=
      ((Did.spendELToken allowed hscaled hmove).deeds (by simp [Call.deeds])).trans
        (finalizeTransfer_deeds (by simp [Call.deeds]) (by simp [Call.deeds]) hfin)
    exact spent.tail (by simp [Call.deeds])
      (.lowerELTokenAllowance (Nat.sub_le _ amount) happrove)
  · cases hvalidate

theorem elTokenApprove_deeds (h : pool.elTokenApprove msgSender asset v amount = .ok pool') :
    Deeds t (· ∈ (Call.elTokenApprove asset v amount).deeds pool msgSender) pool pool' := by
  simp only [elTokenApprove, bind_eq_ok, pure_eq_ok] at h
  obtain ⟨elToken, happrove, rfl⟩ := h
  exact (Did.approveELToken happrove).deeds (by simp [Call.deeds])

end LendingPool

open LendingPool

variable {pool pool' : LendingPool} {t : Nat} {msgSender : Address}

theorem Call.exec_deeds {call : Call} (h : call.exec t msgSender pool = .ok pool') :
    Deeds t (· ∈ call.deeds pool msgSender) pool pool' := by
  cases call with
  | deposit asset amount onBehalfOf => exact deposit_deeds h
  | withdraw asset amount recipient =>
    obtain ⟨⟨_, _⟩, hw, rfl⟩ := map_eq_ok.mp h
    exact withdraw_deeds hw
  | borrow asset amount interestRateMode onBehalfOf => exact borrow_deeds h
  | repay asset amount rateMode onBehalfOf =>
    obtain ⟨⟨_, _⟩, hr, rfl⟩ := map_eq_ok.mp h
    exact repay_deeds hr
  | swapBorrowRateMode asset rateMode => exact swapBorrowRateMode_deeds h
  | rebalanceStableBorrowRate asset user => exact rebalanceStableBorrowRate_deeds h
  | setUserUseReserveAsCollateral asset useAsCollateral =>
    exact setUserUseReserveAsCollateral_deeds h
  | liquidationCall collateralAsset debtAsset user debtToCover receiveLToken =>
    exact liquidationCall_deeds h
  | elTokenTransfer asset recipient amount => exact elTokenTransfer_deeds h
  | elTokenTransferFrom asset sender recipient amount => exact elTokenTransferFrom_deeds h
  | elTokenApprove asset spender amount => exact elTokenApprove_deeds h
  | approveStableDelegation asset delegatee amount =>
    cases Except.ok.inj h
    exact (Did.approveStableDelegation pool msgSender asset delegatee amount).deeds
      (by simp [Call.deeds])
  | approveVariableDelegation asset delegatee amount =>
    cases Except.ok.inj h
    exact (Did.approveVariableDelegation pool msgSender asset delegatee amount).deeds
      (by simp [Call.deeds])
  | approve asset spender amount =>
    obtain ⟨token, happrove, h⟩ := bind_eq_ok.mp h
    cases Except.ok.inj h
    exact (Did.approveToken happrove).deeds (by simp [Call.deeds])
  | transfer asset recipient amount =>
    obtain ⟨token, htransfer, h⟩ := bind_eq_ok.mp h
    cases Except.ok.inj h
    exact (Did.sendToken htransfer).deeds (by simp [Call.deeds])
  | transferFrom asset sender recipient amount =>
    obtain ⟨token, htransfer, h⟩ := bind_eq_ok.mp h
    cases Except.ok.inj h
    exact (Did.spendToken htransfer).deeds (by simp [Call.deeds])
  | listReserve input => exact (Did.listReserve h).deeds (by simp [Call.deeds])
  | setConfiguration asset configuration =>
    cases Except.ok.inj h
    exact (Did.setConfiguration pool asset configuration).deeds (by simp [Call.deeds])
  | setReserveInterestRateStrategy asset strategy =>
    cases Except.ok.inj h
    exact (Did.setReserveInterestRateStrategy pool asset strategy).deeds (by simp [Call.deeds])
  | setPause val =>
    cases Except.ok.inj h
    exact (Did.setPause pool val).deeds (by simp [Call.deeds])
  | setAssetPrice asset price =>
    cases Except.ok.inj h
    exact (Did.setPrices pool _ pool.lendingRateOracle).deeds (by simp [Call.deeds])
  | setMarketBorrowRate asset rate =>
    cases Except.ok.inj h
    exact (Did.setPrices pool pool.priceOracle _).deeds (by simp [Call.deeds])

theorem sendFlashLoan_deeds {receiver : Address} {loans : List (Address × Nat)}
    {entries : List FlashLoanEntry}
    (h : pool.sendFlashLoan receiver loans = .ok (entries, pool')) :
    Deeds t (loanDeeds pool) pool pool' := by
  induction loans generalizing pool entries with
  | nil =>
    cases Except.ok.inj h
    exact .refl _
  | cons loan rest ih =>
    obtain ⟨asset, amount⟩ := loan
    obtain ⟨_, middle, _, _, hm, hrest, _⟩ := sendFlashLoan_cons h
    have same : middle.reserves = pool.reserves := by
      obtain ⟨_, _, rfl⟩ := transferUnderlyingTo_eq_ok hm
      rfl
    have sent : Deeds t (loanDeeds pool) pool middle := (Did.pay hm).deeds ⟨asset, rfl⟩
    refine sent.trans ((ih hrest).mono ?_)
    rintro _ ⟨a, rfl⟩
    exact ⟨a, by rw [same]⟩

theorem settleFlashLoan_deeds {receiver onBehalfOf : Address} {entries : List FlashLoanEntry}
    {modes : List Nat}
    (h : pool.settleFlashLoan t .lendingPool msgSender receiver onBehalfOf entries modes =
      .ok pool') : Deeds t (settlementDeeds msgSender receiver onBehalfOf) pool pool' := by
  induction entries generalizing pool modes with
  | nil =>
    cases Except.ok.inj h
    exact .refl _
  | cons entry entries ih =>
    obtain ⟨mode, rest, middle, rfl, hentry, hrest⟩ := settleFlashLoan_cons h
    refine Deeds.trans ?_ (ih hrest)
    obtain ⟨rateMode, _, ⟨_, hreturn⟩ | ⟨_, hborrow⟩⟩ := settleFlashLoanEntry_eq_ok hentry
    · obtain ⟨p₁, p₂, p₃, h₁, h₂, h₃, hpull⟩ := returnFlashLoan_pulls hreturn
      have accrued : Deeds t (settlementDeeds msgSender receiver onBehalfOf) pool p₁ :=
        (Did.updateState h₁).deeds ⟨entry.asset, by simp⟩
      have credited := accrued.tail ⟨entry.asset, by simp⟩ (.cumulateToLiquidityIndex h₂)
      have rated := credited.tail ⟨entry.asset, by simp⟩ (.updateInterestRates h₃)
      exact rated.tail ⟨entry.asset, by simp⟩ (.pull hpull)
    · refine executeBorrow_deeds ?_ ?_ ?_ ?_ ?_ hborrow
      all_goals first | exact ⟨entry.asset, by simp⟩ | simp

end ElectroLend
