import ElectroLend.Pool.Steps

namespace ElectroLend

open Outcome

namespace LendingPool

variable {pool pool' : LendingPool} {t amount index added taken : Nat} {asset elToken u v : Address}

theorem updateState_eq_ok (h : pool.updateState t asset = .ok pool') :
    ∃ reserve, (pool.reserves asset).updateState t = .ok reserve ∧
      pool' = pool.setReserve asset reserve := by
  simp only [updateState, bind_eq_ok, pure_eq_ok] at h
  obtain ⟨reserve, hr, rfl⟩ := h
  exact ⟨reserve, hr, rfl⟩

theorem updateInterestRates_eq_ok
    (h : pool.updateInterestRates t asset elToken added taken = .ok pool') :
    ∃ reserve, (pool.reserves asset).updateInterestRates t (pool.lendingRateOracle asset)
        ((pool.tokens asset).balances elToken) added taken = .ok reserve ∧
      pool' = pool.setReserve asset reserve := by
  simp only [updateInterestRates, bind_eq_ok, pure_eq_ok] at h
  obtain ⟨reserve, hr, rfl⟩ := h
  exact ⟨reserve, hr, rfl⟩

theorem updateUserConfig_eq_ok {change : UserConfigurationMap → Result UserConfigurationMap}
    (h : pool.updateUserConfig u change = .ok pool') :
    ∃ config, change (pool.usersConfig u) = .ok config ∧ pool' = pool.setUserConfig u config := by
  simp only [updateUserConfig, bind_eq_ok, pure_eq_ok] at h
  obtain ⟨config, hc, rfl⟩ := h
  exact ⟨config, hc, rfl⟩

theorem setUsingAsCollateral_eq_ok {i : Nat} {value : Bool}
    (h : pool.setUsingAsCollateral u i value = .ok pool') :
    ∃ config, (pool.usersConfig u).setUsingAsCollateral i value = .ok config ∧
      pool' = pool.setUserConfig u config :=
  updateUserConfig_eq_ok h

theorem setBorrowing_eq_ok {i : Nat} {value : Bool}
    (h : pool.setBorrowing u i value = .ok pool') :
    ∃ config, (pool.usersConfig u).setBorrowing i value = .ok config ∧
      pool' = pool.setUserConfig u config :=
  updateUserConfig_eq_ok h

theorem updateUserConfig_if {c : Prop}
    {change : UserConfigurationMap → Result UserConfigurationMap}
    (h : (c ∧ pool.updateUserConfig u change = .ok pool') ∨ (¬c ∧ pool = pool')) :
    ∃ config, pool' = pool.setUserConfig u config := by
  obtain ⟨_, hset⟩ | ⟨_, rfl⟩ := h
  · obtain ⟨config, _, rfl⟩ := updateUserConfig_eq_ok hset
    exact ⟨config, rfl⟩
  · exact ⟨pool.usersConfig u, by simp [setUserConfig]⟩

theorem pullUnderlying_eq_ok (h : pool.pullUnderlying asset u v amount = .ok pool') :
    ∃ token, moveBalance (pool.tokens asset).balances u v amount = .ok token.balances ∧
      pool' = pool.setToken asset token := by
  simp only [pullUnderlying, bind_eq_ok, pure_eq_ok] at h
  obtain ⟨token, ht, rfl⟩ := h
  exact ⟨token, SafeERC20.safeTransferFrom_balances ht, rfl⟩

theorem transferUnderlyingTo_eq_ok (h : pool.transferUnderlyingTo asset u v amount = .ok pool') :
    ∃ token, moveBalance (pool.tokens asset).balances u v amount = .ok token.balances ∧
      pool' = pool.setToken asset token := by
  simp only [transferUnderlyingTo, ELToken.transferUnderlyingTo, bind_eq_ok, pure_eq_ok] at h
  obtain ⟨token, ht, rfl⟩ := h
  exact ⟨token, (SafeERC20.safeTransfer_balances ht).1, rfl⟩

theorem mintELToken_eq_ok {first : Bool} (h : pool.mintELToken asset u amount = .ok (first, pool')) :
    ∃ elToken, (pool.reserves asset).elToken.mint u amount (pool.reserves asset).liquidityIndex =
        .ok (first, elToken) ∧
      pool' = pool.setReserve asset { pool.reserves asset with elToken } := by
  simp only [mintELToken, bind_eq_ok, pure_eq_ok, Prod.exists, Prod.mk.injEq] at h
  obtain ⟨_, elToken, hm, rfl, rfl⟩ := h
  exact ⟨elToken, hm, rfl⟩

theorem burnELToken_eq_ok (h : pool.burnELToken asset u v amount = .ok pool') :
    ∃ elToken token, (pool.reserves asset).elToken.burn (pool.tokens asset)
        (pool.reserves asset).elTokenAddress u v amount (pool.reserves asset).liquidityIndex =
        .ok (elToken, token) ∧
      pool' = (pool.setReserve asset { pool.reserves asset with elToken }).setToken asset token := by
  simp only [burnELToken, bind_eq_ok, pure_eq_ok, Prod.exists] at h
  obtain ⟨elToken, token, hb, rfl⟩ := h
  exact ⟨elToken, token, hb, rfl⟩

theorem mintVariableDebt_eq_ok {first : Bool}
    (h : pool.mintVariableDebt asset u v amount index = .ok (first, pool')) :
    ∃ variableDebtToken,
      (pool.reserves asset).variableDebtToken.mint u v amount index =
        .ok (first, variableDebtToken) ∧
      pool' = pool.setReserve asset { pool.reserves asset with variableDebtToken } := by
  simp only [mintVariableDebt, bind_eq_ok, pure_eq_ok, Prod.exists, Prod.mk.injEq] at h
  obtain ⟨_, variableDebtToken, hm, rfl, rfl⟩ := h
  exact ⟨variableDebtToken, hm, rfl⟩

theorem burnVariableDebt_eq_ok (h : pool.burnVariableDebt asset u amount = .ok pool') :
    ∃ variableDebtToken,
      (pool.reserves asset).variableDebtToken.burn u amount
        (pool.reserves asset).variableBorrowIndex = .ok variableDebtToken ∧
      pool' = pool.setReserve asset { pool.reserves asset with variableDebtToken } := by
  simp only [burnVariableDebt, bind_eq_ok, pure_eq_ok] at h
  obtain ⟨variableDebtToken, hb, rfl⟩ := h
  exact ⟨variableDebtToken, hb, rfl⟩

theorem mintVariableDebt_amount {index : Nat} {first : Bool}
    (h : pool.mintVariableDebt asset u v amount index = .ok (first, pool')) : amount ≠ 0 := by
  obtain ⟨token, hm, _⟩ := mintVariableDebt_eq_ok h
  obtain ⟨scaled, hd, hne, _⟩ := VariableDebtToken.mint_eq_ok hm
  rintro rfl
  obtain ⟨_, rfl⟩ := rayDiv_eq_ok.mp hd
  simp at hne

theorem burnVariableDebt_amount (h : pool.burnVariableDebt asset u amount = .ok pool') :
    amount ≠ 0 := by
  obtain ⟨token, hb, _⟩ := burnVariableDebt_eq_ok h
  obtain ⟨scaled, hd, hne, _⟩ := VariableDebtToken.burn_eq_ok hb
  rintro rfl
  obtain ⟨_, rfl⟩ := rayDiv_eq_ok.mp hd
  simp at hne

theorem mintStableDebt_eq_ok {first : Bool}
    (h : pool.mintStableDebt t asset u v amount = .ok (first, pool')) :
    ∃ stableDebtToken,
      (pool.reserves asset).stableDebtToken.mint t u v amount
        (pool.reserves asset).currentStableBorrowRate = .ok (first, stableDebtToken) ∧
      pool' = pool.setReserve asset { pool.reserves asset with stableDebtToken } := by
  simp only [mintStableDebt, bind_eq_ok, pure_eq_ok, Prod.exists, Prod.mk.injEq] at h
  obtain ⟨_, stableDebtToken, hm, rfl, rfl⟩ := h
  exact ⟨stableDebtToken, hm, rfl⟩

theorem burnStableDebt_eq_ok (h : pool.burnStableDebt t asset u amount = .ok pool') :
    ∃ stableDebtToken, (pool.reserves asset).stableDebtToken.burn t u amount =
        .ok stableDebtToken ∧
      pool' = pool.setReserve asset { pool.reserves asset with stableDebtToken } := by
  simp only [burnStableDebt, bind_eq_ok, pure_eq_ok] at h
  obtain ⟨stableDebtToken, hb, rfl⟩ := h
  exact ⟨stableDebtToken, hb, rfl⟩

theorem cumulateToLiquidityIndex_eq_ok
    (h : pool.cumulateToLiquidityIndex asset amount = .ok pool') :
    ∃ liquidityIndex, (pool.reserves asset).liquidityIndex ≤ liquidityIndex ∧
      pool' = pool.setReserve asset { pool.reserves asset with liquidityIndex } := by
  simp only [cumulateToLiquidityIndex, bind_eq_ok, pure_eq_ok] at h
  obtain ⟨reserve, hr, rfl⟩ := h
  obtain ⟨liquidityIndex, hle, rfl⟩ := Reserve.cumulateToLiquidityIndex_eq_ok hr
  exact ⟨liquidityIndex, hle, rfl⟩

theorem finalizeTransfer_eq_ok {caller : Address} {beforeFrom beforeTo : Nat}
    (h : pool.finalizeTransfer t caller asset u v amount beforeFrom beforeTo = .ok pool') :
    caller = (pool.reserves asset).elTokenAddress ∧ pool.validateTransfer t u = .ok () ∧
      ((u = v ∧ pool' = pool) ∨ (u ≠ v ∧ amount ≤ beforeFrom ∧ ∃ middle,
        ((amount = beforeFrom ∧ pool.setUsingAsCollateral u (pool.reserves asset).id false =
            .ok middle) ∨ (amount ≠ beforeFrom ∧ pool = middle)) ∧
        ((beforeTo = 0 ∧ amount ≠ 0 ∧ middle.setUsingAsCollateral v (pool.reserves asset).id true =
            .ok pool') ∨ (¬(beforeTo = 0 ∧ amount ≠ 0) ∧ middle = pool')))) := by
  simp only [finalizeTransfer, whenNotPaused, bind_eq_ok, require_eq_ok, ite_eq_ok,
    SafeMath.sub_eq_ok, Except.ok.injEq] at h
  obtain ⟨_, _, _, hcaller, _, hvalid, h⟩ := h
  refine ⟨hcaller, hvalid, ?_⟩
  obtain ⟨hne, _, ⟨hle, rfl⟩, middle, hfrom, hto⟩ | ⟨he, rfl⟩ := h
  · refine .inr ⟨hne, hle, middle, ?_, ?_⟩
    · obtain ⟨hz, hset⟩ | ⟨hz, rfl⟩ := hfrom
      · exact .inl ⟨by omega, hset⟩
      · exact .inr ⟨by omega, rfl⟩
    · obtain ⟨⟨hz, ha⟩, hset⟩ | ⟨hz, rfl⟩ := hto
      · exact .inl ⟨hz, ha, hset⟩
      · exact .inr ⟨hz, rfl⟩
  · exact .inl ⟨not_not.mp he, rfl⟩

theorem transferELToken_eq_ok {validate : Bool}
    (h : pool.transferELToken t asset u v amount validate = .ok pool') :
    ∃ index beforeFrom beforeTo amountScaled balances,
      (pool.reserves asset).getNormalizedIncome t = .ok index ∧
      rayMul ((pool.reserves asset).elToken.balances u) index = .ok beforeFrom ∧
      rayMul ((pool.reserves asset).elToken.balances v) index = .ok beforeTo ∧
      rayDiv amount index = .ok amountScaled ∧
      moveBalance (pool.reserves asset).elToken.balances u v amountScaled = .ok balances ∧
      ∃ moved, moved = pool.setReserve asset { pool.reserves asset with
          elToken := { (pool.reserves asset).elToken with balances } } ∧
        ((validate = true ∧ moved.finalizeTransfer t (pool.reserves asset).elTokenAddress asset u v
            amount beforeFrom beforeTo = .ok pool') ∨ (validate = false ∧ moved = pool')) := by
  simp only [transferELToken, ELToken.transferScaled, ELToken.scaledBalanceOf, bind_eq_ok,
    pure_eq_ok, ite_eq_ok, Except.ok.injEq] at h
  obtain ⟨index, hi, beforeFrom, hf, beforeTo, hto, amountScaled, hd, elToken, ⟨balances, hm, rfl⟩,
    h⟩ := h
  refine ⟨index, beforeFrom, beforeTo, amountScaled, balances, hi, hf, hto, hd, hm, _, rfl, ?_⟩
  simpa using h

theorem deposit_eq_ok {msgSender onBehalfOf : Address}
    (h : pool.deposit t msgSender asset amount onBehalfOf = .ok pool') :
    ∃ accrued rated paid first minted, pool.updateState t asset = .ok accrued ∧
      accrued.updateInterestRates t asset (pool.reserves asset).elTokenAddress amount 0 =
        .ok rated ∧
      rated.pullUnderlying asset msgSender (pool.reserves asset).elTokenAddress amount = .ok paid ∧
      paid.mintELToken asset onBehalfOf amount = .ok (first, minted) ∧
      ((first = true ∧ minted.setUsingAsCollateral onBehalfOf (minted.reserves asset).id true =
          .ok pool') ∨ (¬first = true ∧ minted = pool')) := by
  simp only [deposit, bind_eq_ok, Prod.exists, ite_eq_ok, Except.ok.injEq] at h
  obtain ⟨_, _, _, _, accrued, h₁, rated, h₂, paid, h₃, first, minted, h₄, hbit⟩ := h
  exact ⟨accrued, rated, paid, first, minted, h₁, h₂, h₃, h₄, hbit⟩

theorem withdraw_eq_ok {msgSender recipient : Address} {withdrawn : Nat}
    (h : pool.withdraw t msgSender asset amount recipient = .ok (withdrawn, pool')) :
    ∃ balance accrued rated marked, (pool.reserves asset).elTokenBalanceOf msgSender = .ok balance ∧
      pool.validateWithdraw t msgSender asset (amountToWithdraw amount balance) balance = .ok () ∧
      pool.updateState t asset = .ok accrued ∧
      accrued.updateInterestRates t asset (pool.reserves asset).elTokenAddress 0
        (amountToWithdraw amount balance) = .ok rated ∧
      ((amountToWithdraw amount balance = balance ∧
          rated.setUsingAsCollateral msgSender (rated.reserves asset).id false = .ok marked) ∨
        (¬amountToWithdraw amount balance = balance ∧ rated = marked)) ∧
      marked.burnELToken asset msgSender recipient (amountToWithdraw amount balance) =
        .ok pool' ∧
      withdrawn = amountToWithdraw amount balance := by
  simp only [withdraw, bind_eq_ok, ite_eq_ok, pure_eq_ok, Except.ok.injEq, Prod.mk.injEq] at h
  obtain ⟨_, _, balance, hbalance, _, hvalid, accrued, h₁, rated, h₂, marked, hbit, _, h₃, rfl,
    rfl⟩ := h
  exact ⟨balance, accrued, rated, marked, hbalance, hvalid, h₁, h₂, hbit, h₃, rfl⟩

/-- The loan is minted before the rates are updated, and the underlying leaves last. -/
theorem executeBorrow_eq_ok {vars : ExecuteBorrowParams}
    (h : pool.executeBorrow t vars = .ok pool') :
    ∃ accrued first minted marked rated,
      pool.validateBorrow t vars.asset vars.onBehalfOf vars.amount
        (pool.priceOracle vars.asset * vars.amount /
          tokenUnit (pool.reserves vars.asset).configuration.getDecimals)
        vars.interestRateMode = .ok () ∧
      pool.updateState t vars.asset = .ok accrued ∧
      accrued.mintDebt t vars = .ok (first, minted) ∧
      ((first = true ∧ minted.setBorrowing vars.onBehalfOf (minted.reserves vars.asset).id true =
          .ok marked) ∨ (¬first = true ∧ minted = marked)) ∧
      marked.updateInterestRates t vars.asset vars.elTokenAddress 0
        (if vars.releaseUnderlying = true then vars.amount else 0) = .ok rated ∧
      ((vars.releaseUnderlying = true ∧ rated.transferUnderlyingTo vars.asset vars.elTokenAddress
          vars.user vars.amount = .ok pool') ∨
        (¬vars.releaseUnderlying = true ∧ rated = pool')) := by
  simp only [executeBorrow, bind_eq_ok, Prod.exists, ite_eq_ok, Except.ok.injEq,
    SafeMath.mul_eq_ok, SafeMath.div_eq_ok] at h
  obtain ⟨_, ⟨_, rfl⟩, _, ⟨_, rfl⟩, _, hvalid, accrued, h₁, first, minted, h₂, marked, hbit, rated,
    h₃, hsend⟩ := h
  exact ⟨accrued, first, minted, marked, rated, hvalid, h₁, h₂, hbit, h₃, hsend⟩

theorem repay_eq_ok {msgSender onBehalfOf : Address} {rateMode repaid : Nat}
    (h : pool.repay t msgSender asset amount rateMode onBehalfOf = .ok (repaid, pool')) :
    ∃ stable variableDebt mode accrued burned rated marked,
      (pool.reserves asset).stableDebtBalanceOf t onBehalfOf = .ok stable ∧
      (pool.reserves asset).variableDebtBalanceOf t onBehalfOf = .ok variableDebt ∧
      InterestRateMode.fromNat rateMode = .ok mode ∧
      validateRepay msgSender (pool.reserves asset) amount mode onBehalfOf stable variableDebt =
        .ok () ∧
      repaid = paybackAmount amount stable variableDebt mode ∧
      pool.updateState t asset = .ok accrued ∧
      accrued.burnDebt t asset onBehalfOf repaid mode = .ok burned ∧
      burned.updateInterestRates t asset (pool.reserves asset).elTokenAddress repaid 0 =
        .ok rated ∧
      repaid ≤ stable + variableDebt ∧
      ((stable + variableDebt - repaid = 0 ∧
          rated.setBorrowing onBehalfOf (rated.reserves asset).id false = .ok marked) ∨
        (¬stable + variableDebt - repaid = 0 ∧ rated = marked)) ∧
      marked.pullUnderlying asset msgSender (pool.reserves asset).elTokenAddress repaid =
        .ok pool' := by
  simp only [repay, Reserve.getUserCurrentDebt, bind_eq_ok, Prod.exists, ite_eq_ok, pure_eq_ok,
    Prod.mk.injEq, Except.ok.injEq, SafeMath.add_eq_ok, SafeMath.sub_eq_ok] at h
  obtain ⟨_, _, _, _, ⟨stable, hs, variableDebt, hv, rfl, rfl⟩, mode, hmode, _, hvalid, accrued, h₁,
    burned, h₂, rated, h₃, _, ⟨_, rfl⟩, _, ⟨hle, rfl⟩, marked, hbit, _, h₄, rfl, rfl⟩ := h
  exact ⟨stable, variableDebt, mode, accrued, burned, rated, marked, hs, hv, hmode, hvalid, rfl, h₁,
    h₂, h₃, hle, hbit, h₄⟩

theorem swapBorrowRateMode_eq_ok {msgSender : Address} {rateMode : Nat}
    (h : pool.swapBorrowRateMode t msgSender asset rateMode = .ok pool') :
    ∃ stable variableDebt mode accrued first swapped,
      (pool.reserves asset).stableDebtBalanceOf t msgSender = .ok stable ∧
      (pool.reserves asset).variableDebtBalanceOf t msgSender = .ok variableDebt ∧
      InterestRateMode.fromNat rateMode = .ok mode ∧
      validateSwapRateMode msgSender (pool.reserves asset) (pool.usersConfig msgSender) stable
        variableDebt mode = .ok () ∧
      pool.updateState t asset = .ok accrued ∧
      accrued.swapDebt t asset msgSender stable variableDebt mode = .ok (first, swapped) ∧
      swapped.updateInterestRates t asset (swapped.reserves asset).elTokenAddress 0 0 =
        .ok pool' := by
  simp only [swapBorrowRateMode, Reserve.getUserCurrentDebt, bind_eq_ok, Prod.exists, pure_eq_ok,
    Prod.mk.injEq] at h
  obtain ⟨_, _, _, _, ⟨stable, hs, variableDebt, hv, rfl, rfl⟩, mode, hmode, _, hvalid, accrued, h₁,
    first, swapped, h₂, h₃⟩ := h
  exact ⟨stable, variableDebt, mode, accrued, first, swapped, hs, hv, hmode, hvalid, h₁, h₂, h₃⟩

theorem rebalanceStableBorrowRate_eq_ok
    (h : pool.rebalanceStableBorrowRate t asset u = .ok pool') :
    ∃ stable accrued burned first minted,
      (pool.reserves asset).stableDebtBalanceOf t u = .ok stable ∧
      pool.updateState t asset = .ok accrued ∧
      accrued.burnStableDebt t asset u stable = .ok burned ∧
      burned.mintVariableDebt asset u u stable (burned.reserves asset).currentVariableBorrowRate =
        .ok (first, minted) ∧
      minted.updateInterestRates t asset (pool.reserves asset).elTokenAddress 0 0 = .ok pool' := by
  simp only [rebalanceStableBorrowRate, bind_eq_ok, Prod.exists] at h
  obtain ⟨_, _, stable, hs, _, _, accrued, h₁, burned, h₂, first, minted, h₃, h₄⟩ := h
  exact ⟨stable, accrued, burned, first, minted, hs, h₁, h₂, h₃, h₄⟩

theorem elTokenTransferFrom_eq_ok {msgSender : Address}
    (h : pool.elTokenTransferFrom t msgSender asset u v amount = .ok pool') :
    ∃ moved elToken, (pool.reserves asset).elTokenAddress ≠ 0 ∧
      pool.transferELToken t asset u v amount true = .ok moved ∧
      amount ≤ (moved.reserves asset).elToken.allowances u msgSender ∧
      (moved.reserves asset).elToken.approve u msgSender
        ((moved.reserves asset).elToken.allowances u msgSender - amount) = .ok elToken ∧
      pool' = moved.setReserve asset { moved.reserves asset with elToken } := by
  simp only [elTokenTransferFrom, requireContract, bind_eq_ok, require_eq_ok, pure_eq_ok,
    SafeMath.sub_eq_ok] at h
  obtain ⟨_, hdeployed, moved, htransfer, _, ⟨hle, rfl⟩, elToken, happrove, rfl⟩ := h
  exact ⟨moved, elToken, hdeployed, htransfer, hle, happrove, rfl⟩

theorem sendFlashLoan_cons {receiver : Address} {rest : List (Address × Nat)}
    {entries : List FlashLoanEntry}
    (h : pool.sendFlashLoan receiver ((asset, amount) :: rest) = .ok (entries, pool')) :
    ∃ premium middle tail, (pool.reserves asset).elTokenAddress ≠ 0 ∧
      pool.transferUnderlyingTo asset (pool.reserves asset).elTokenAddress receiver amount =
        .ok middle ∧
      middle.sendFlashLoan receiver rest = .ok (tail, pool') ∧
      entries = ⟨asset, (pool.reserves asset).elTokenAddress, amount, premium⟩ :: tail := by
  simp only [sendFlashLoan, requireContract, bind_eq_ok, require_eq_ok, pure_eq_ok, Prod.exists,
    Prod.mk.injEq] at h
  obtain ⟨_, _, premium, _, _, hlisted, middle, hm, tail, _, hrest, rfl, rfl⟩ := h
  exact ⟨premium, middle, tail, hlisted, hm, hrest, rfl⟩

theorem flashLoan_eq_ok {version : PoolVersion} {msgSender receiver onBehalfOf : Address}
    {assets : List Address} {amounts modes : List Nat}
    {executeOperation : LendingPool → Result (Bool × LendingPool)}
    (h : pool.flashLoan t version msgSender receiver assets amounts modes onBehalfOf
      executeOperation = .ok pool') :
    assets.length = amounts.length ∧ ∃ entries sent answer returned,
      pool.sendFlashLoan receiver (assets.zip amounts) = .ok (entries, sent) ∧
      executeOperation sent = .ok (answer, returned) ∧
      returned.settleFlashLoan t version msgSender receiver onBehalfOf entries modes =
        .ok pool' := by
  simp only [flashLoan, whenNotPaused, validateFlashloan, bind_eq_ok, require_eq_ok,
    Prod.exists] at h
  obtain ⟨_, _, _, hlen, entries, sent, hsend, answer, returned, hcall, _, _, hsettle⟩ := h
  exact ⟨hlen, entries, sent, answer, returned, hsend, hcall, hsettle⟩

theorem returnFlashLoan_eq_ok {version : PoolVersion} {receiver : Address} {entry : FlashLoanEntry}
    (h : pool.returnFlashLoan t version receiver entry = .ok pool') :
    ∃ accrued cumulated rated, pool.updateState t entry.asset = .ok accrued ∧
      accrued.cumulateToLiquidityIndex entry.asset entry.premium = .ok cumulated ∧
      cumulated.updateInterestRates t entry.asset entry.elTokenAddress
        (entry.amount + entry.premium) 0 = .ok rated ∧
      ((version = .lendingPool ∧ rated.pullUnderlying entry.asset receiver entry.elTokenAddress
          (entry.amount + entry.premium) = .ok pool') ∨
        (version ≠ .lendingPool ∧ rated.elTokenTransferFrom t rated.this entry.asset receiver
          entry.elTokenAddress (entry.amount + entry.premium) = .ok pool')) := by
  simp only [returnFlashLoan, bind_eq_ok, SafeMath.add_eq_ok] at h
  obtain ⟨_, ⟨_, rfl⟩, accrued, h₁, cumulated, h₂, rated, h₃, hpull⟩ := h
  refine ⟨accrued, cumulated, rated, h₁, h₂, h₃, ?_⟩
  cases version with
  | lendingPool => exact .inl ⟨rfl, hpull⟩
  | lendingPoolTmp => exact .inr ⟨by decide, SafeERC20.lowLevelCall_eq_ok.mp hpull⟩
  | lendingPoolV4 => exact .inr ⟨by decide, SafeERC20.lowLevelCall_eq_ok.mp hpull⟩

/-- The pool pulls what comes back for an entry itself. -/
theorem returnFlashLoan_pulls {receiver : Address} {entry : FlashLoanEntry}
    (h : pool.returnFlashLoan t .lendingPool receiver entry = .ok pool') :
    ∃ accrued cumulated rated, pool.updateState t entry.asset = .ok accrued ∧
      accrued.cumulateToLiquidityIndex entry.asset entry.premium = .ok cumulated ∧
      cumulated.updateInterestRates t entry.asset entry.elTokenAddress
        (entry.amount + entry.premium) 0 = .ok rated ∧
      rated.pullUnderlying entry.asset receiver entry.elTokenAddress
        (entry.amount + entry.premium) = .ok pool' := by
  obtain ⟨accrued, cumulated, rated, h₁, h₂, h₃, ⟨_, hpull⟩ | ⟨other, _⟩⟩ := returnFlashLoan_eq_ok h
  · exact ⟨accrued, cumulated, rated, h₁, h₂, h₃, hpull⟩
  · exact absurd rfl other

/-- An entry is returned with its premium, or becomes a debt of the mode asked for. -/
theorem settleFlashLoanEntry_eq_ok {version : PoolVersion}
    {msgSender receiver onBehalfOf : Address} {entry : FlashLoanEntry} {mode : Nat}
    (h : pool.settleFlashLoanEntry t version msgSender receiver onBehalfOf entry mode =
      .ok pool') :
    ∃ rateMode, InterestRateMode.fromNat mode = .ok rateMode ∧
      ((rateMode = .none ∧ pool.returnFlashLoan t version receiver entry = .ok pool') ∨
        (rateMode ≠ .none ∧ pool.executeBorrow t {
          asset := entry.asset
          user := msgSender
          onBehalfOf
          amount := entry.amount
          interestRateMode := mode
          elTokenAddress := entry.elTokenAddress
          releaseUnderlying := false } = .ok pool')) := by
  simp only [settleFlashLoanEntry, bind_eq_ok, ite_eq_ok] at h
  exact h

theorem settleFlashLoan_cons {version : PoolVersion} {msgSender receiver onBehalfOf : Address}
    {entry : FlashLoanEntry} {entries : List FlashLoanEntry} {modes : List Nat}
    (h : pool.settleFlashLoan t version msgSender receiver onBehalfOf (entry :: entries) modes =
      .ok pool') :
    ∃ mode rest middle, modes = mode :: rest ∧
      pool.settleFlashLoanEntry t version msgSender receiver onBehalfOf entry mode = .ok middle ∧
      middle.settleFlashLoan t version msgSender receiver onBehalfOf entries rest = .ok pool' := by
  cases modes with
  | nil => cases h
  | cons mode rest =>
    simp only [settleFlashLoan, bind_eq_ok] at h
    obtain ⟨middle, hentry, hrest⟩ := h
    exact ⟨mode, rest, middle, rfl, hentry, hrest⟩

/-- A liquidation that has burned the debt it covers and has not yet taken the collateral. -/
structure CoveredDebt where
  pool : LendingPool
  userCollateralBalance : Nat
  maxCollateralToLiquidate : Nat
  actualDebtToLiquidate : Nat

/-- The part of a liquidation before the payout, without its checks. -/
def coverDebt (pool : LendingPool) (t : Nat) (collateralAsset debtAsset user : Address)
    (debtToCover : Nat) : Result CoveredDebt := do
  let (userStableDebt, userVariableDebt) ← (pool.reserves debtAsset).getUserCurrentDebt t user
  let userCollateralBalance ← (pool.reserves collateralAsset).elTokenBalanceOf user
  let totalDebt ← SafeMath.add userStableDebt userVariableDebt
  let maxLiquidatableDebt ← percentMul totalDebt LIQUIDATION_CLOSE_FACTOR_PERCENT
  let wanted := debtToLiquidate debtToCover maxLiquidatableDebt
  let (maxCollateralToLiquidate, debtAmountNeeded) ←
    pool.calculateAvailableCollateralToLiquidate collateralAsset debtAsset wanted
      userCollateralBalance
  let actualDebtToLiquidate := min wanted debtAmountNeeded
  let accrued ← pool.updateState t debtAsset
  let burned ← accrued.burnLiquidatedDebt t debtAsset user userVariableDebt actualDebtToLiquidate
  let rated ← burned.updateInterestRates t debtAsset (pool.reserves debtAsset).elTokenAddress
    actualDebtToLiquidate 0
  pure ⟨rated, userCollateralBalance, maxCollateralToLiquidate, actualDebtToLiquidate⟩

theorem coverDebt_eq_ok {collateralAsset debtAsset : Address} {debtToCover : Nat} {debt : CoveredDebt}
    (h : pool.coverDebt t collateralAsset debtAsset u debtToCover = .ok debt) :
    ∃ stable variableDebt half needed accrued burned,
      (pool.reserves debtAsset).stableDebtBalanceOf t u = .ok stable ∧
      (pool.reserves debtAsset).variableDebtBalanceOf t u = .ok variableDebt ∧
      (pool.reserves collateralAsset).elTokenBalanceOf u = .ok debt.userCollateralBalance ∧
      stable + variableDebt ≤ uint256Max ∧
      percentMul (stable + variableDebt) LIQUIDATION_CLOSE_FACTOR_PERCENT = .ok half ∧
      pool.calculateAvailableCollateralToLiquidate collateralAsset debtAsset
        (debtToLiquidate debtToCover half) debt.userCollateralBalance =
          .ok (debt.maxCollateralToLiquidate, needed) ∧
      debt.actualDebtToLiquidate = min (debtToLiquidate debtToCover half) needed ∧
      pool.updateState t debtAsset = .ok accrued ∧
      accrued.burnLiquidatedDebt t debtAsset u variableDebt debt.actualDebtToLiquidate =
        .ok burned ∧
      burned.updateInterestRates t debtAsset (pool.reserves debtAsset).elTokenAddress
        debt.actualDebtToLiquidate 0 = .ok debt.pool := by
  simp only [coverDebt, Reserve.getUserCurrentDebt, bind_eq_ok, Prod.exists, pure_eq_ok,
    Prod.mk.injEq, SafeMath.add_eq_ok] at h
  obtain ⟨_, _, ⟨stable, hs, variableDebt, hv, rfl, rfl⟩, balance, hbalance, _, ⟨hsum, rfl⟩, half,
    hhalf, collateral, needed, havailable, accrued, h₁, burned, h₂, rated, h₃, rfl⟩ := h
  exact ⟨stable, variableDebt, half, needed, accrued, burned, hs, hv, hbalance, hsum, hhalf,
    havailable, rfl, h₁, h₂, h₃⟩

/-- Where the variable debt covers the amount, only variable debt is burned. -/
theorem burnLiquidatedDebt_eq_ok {debt : Nat}
    (h : pool.burnLiquidatedDebt t asset u debt amount = .ok pool') :
    (amount ≤ debt ∧ pool.burnVariableDebt asset u amount = .ok pool') ∨
    (debt < amount ∧ ∃ middle,
      ((0 < debt ∧ pool.burnVariableDebt asset u debt = .ok middle) ∨
        (debt = 0 ∧ pool = middle)) ∧
      middle.burnStableDebt t asset u (amount - debt) = .ok pool') := by
  simp only [burnLiquidatedDebt, ite_eq_ok, bind_eq_ok, Except.ok.injEq, SafeMath.sub_eq_ok] at h
  obtain ⟨hge, hb⟩ | ⟨hlt, middle, hb, _, ⟨_, rfl⟩, hs⟩ := h
  · exact .inl ⟨hge, hb⟩
  · refine .inr ⟨Nat.lt_of_not_le hlt, middle, ?_, hs⟩
    obtain ⟨hpos, hb⟩ | ⟨hz, rfl⟩ := hb
    · exact .inl ⟨hpos, hb⟩
    · exact .inr ⟨Nat.eq_zero_of_not_pos hz, rfl⟩

/-- Collateral is taken over as elTokens, or as underlying of an accrued and rated reserve. -/
theorem seizeCollateral_eq_ok {receiveLToken : Bool}
    (h : pool.seizeCollateral t v asset u amount receiveLToken = .ok pool') :
    (receiveLToken = true ∧ ∃ moved, pool.transferELToken t asset u v amount false = .ok moved ∧
      (((pool.reserves asset).elToken.toIncentivizedERC20.balanceOf v = 0 ∧
          moved.setUsingAsCollateral v (moved.reserves asset).id true = .ok pool') ∨
        (¬(pool.reserves asset).elToken.toIncentivizedERC20.balanceOf v = 0 ∧ moved = pool'))) ∨
    (receiveLToken = false ∧ ∃ accrued rated, pool.updateState t asset = .ok accrued ∧
      accrued.updateInterestRates t asset (pool.reserves asset).elTokenAddress 0 amount =
        .ok rated ∧
      rated.burnELToken asset u v amount = .ok pool') := by
  simp only [seizeCollateral, seizeELToken, seizeUnderlying, ite_eq_ok, bind_eq_ok,
    Except.ok.injEq] at h
  obtain ⟨hflag, moved, htransfer, hbit⟩ | ⟨hflag, accrued, h₁, rated, h₂, h₃⟩ := h
  · exact .inl ⟨hflag, moved, htransfer, hbit⟩
  · exact .inr ⟨by simpa using hflag, accrued, rated, h₁, h₂, h₃⟩

/-- A liquidation covers the debt, hands over the collateral in one of the two ways, clears the bit
of the user when nothing is left to him, and takes the payment. -/
theorem liquidationCall_eq_ok {collateralAsset debtAsset : Address} {debtToCover : Nat}
    {receiveLToken : Bool} (h : pool.liquidationCall t v collateralAsset debtAsset u debtToCover
      receiveLToken = .ok pool') :
    ∃ debt seized marked, pool.coverDebt t collateralAsset debtAsset u debtToCover = .ok debt ∧
      (receiveLToken = true ∨
        debt.maxCollateralToLiquidate ≤ pool.underlyingBalance collateralAsset) ∧
      debt.pool.seizeCollateral t v collateralAsset u debt.maxCollateralToLiquidate
        receiveLToken = .ok seized ∧
      ((debt.maxCollateralToLiquidate = debt.userCollateralBalance ∧
          seized.setUsingAsCollateral u (seized.reserves collateralAsset).id false = .ok marked) ∨
        (debt.maxCollateralToLiquidate ≠ debt.userCollateralBalance ∧ seized = marked)) ∧
      marked.pullUnderlying debtAsset v (pool.reserves debtAsset).elTokenAddress
        debt.actualDebtToLiquidate = .ok pool' := by
  simp only [liquidationCall, liquidatePosition, bind_eq_ok, mapError_eq_ok, require_eq_ok,
    Prod.exists, ite_eq_ok, Except.ok.injEq] at h
  obtain ⟨_, _, _, _, stable, variableDebt, hdebt, _, _, balance, hbalance, total, htotal, half,
    hhalf, collateral, needed, havailable, _, hliquid, p₁, h₁, p₂, h₂, p₃, h₃, p₄, h₄, p₅, hbit,
    h₆⟩ := h
  have covered : pool.coverDebt t collateralAsset debtAsset u debtToCover =
      .ok ⟨p₃, balance, collateral, min (debtToLiquidate debtToCover half) needed⟩ := by
    simp only [coverDebt, hdebt, ok_bind, hbalance, htotal, hhalf, havailable, h₁, h₂, h₃]
    rfl
  exact ⟨_, p₄, p₅, covered, hliquid, h₄, hbit, h₆⟩

theorem addReserveToList_eq_ok (h : pool.addReserveToList asset = .ok pool') :
    pool.reservesCount < pool.maxNumberOfReserves ∧
      ((((pool.reserves asset).id ≠ 0 ∨ pool.reservesList 0 = asset) ∧ 0 < pool.reservesCount ∧
          pool' = pool) ∨
        (¬((pool.reserves asset).id ≠ 0 ∨ pool.reservesList 0 = asset) ∧
          pool' = { pool.setReserve asset
              { pool.reserves asset with id := uint8 pool.reservesCount } with
            reservesList := Function.update pool.reservesList pool.reservesCount asset
            reservesCount := pool.reservesCount + 1 })) := by
  simp only [addReserveToList, bind_eq_ok, require_eq_ok, pure_eq_ok, ite_eq_ok] at h
  obtain ⟨_, hlt, ⟨hadded, _, hpos, rfl⟩ | ⟨hnew, rfl⟩⟩ := h
  · exact ⟨hlt, .inl ⟨hadded, hpos, rfl⟩⟩
  · exact ⟨hlt, .inr ⟨hnew, rfl⟩⟩

/-- The reserve as the listing sets it up, before it gets its id. -/
def freshReserve (pool : LendingPool) (input : InitReserveInput) : Reserve :=
  { pool.reserves input.underlyingAsset with
    liquidityIndex := uint128 RAY
    variableBorrowIndex := uint128 RAY
    elTokenAddress := input.elTokenAddress
    stableDebtTokenAddress := input.stableDebtTokenAddress
    variableDebtTokenAddress := input.variableDebtTokenAddress
    interestRateStrategy := input.interestRateStrategy
    elToken := ⟨.empty, fun _ _ => 0, input.treasury⟩
    stableDebtToken := .empty
    variableDebtToken := .empty }

theorem listReserve_eq_ok {input : InitReserveInput} (h : pool.listReserve input = .ok pool') :
    input.elTokenAddress ≠ 0 ∧ input.stableDebtTokenAddress ≠ 0 ∧
      input.variableDebtTokenAddress ≠ 0 ∧
      (pool.reserves input.underlyingAsset).elTokenAddress = 0 ∧
      ∃ added configuration,
        (pool.setReserve input.underlyingAsset (pool.freshReserve input)).addReserveToList
          input.underlyingAsset = .ok added ∧
        pool' = added.setConfiguration input.underlyingAsset configuration := by
  simp only [listReserve, initReserve, Reserve.init, requireContract, bind_eq_ok, require_eq_ok,
    pure_eq_ok] at h
  obtain ⟨_, hel, _, hst, _, hva, added, ⟨_, _, _, ⟨_, hinit, rfl⟩, hadd⟩, _, _, rfl⟩ := h
  exact ⟨hel, hst, hva, hinit, added, _, hadd, rfl⟩

end LendingPool

end ElectroLend
