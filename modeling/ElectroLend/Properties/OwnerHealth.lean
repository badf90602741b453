import ElectroLend.Properties.CollateralBits
import ElectroLend.Properties.CollateralDecrease

namespace ElectroLend

open Outcome

namespace LendingPool

variable {pool pool' : LendingPool} {t amount k : Nat} {asset u v : Address}
  {config config' : UserConfigurationMap} {account account' : UserAccountData}

theorem healthFactor_of_no_debt (hdata : pool.calculateUserAccountData t u config = .ok account)
    (hz : account.totalDebtInETH = 0) :
    HEALTH_FACTOR_LIQUIDATION_THRESHOLD ≤ account.healthFactor := by
  obtain ⟨_, _, _, _, _, _, hhealth⟩ := calculateUserAccountData_eq_ok hdata
  obtain ⟨_, hmax⟩ | ⟨hpos, _⟩ := calculateHealthFactorFromBalances_eq_ok hhealth
  · rw [hmax]
    decide
  · omega

/-- At time `t` the account of the user holds the same positions, against no more debt. -/
structure SameAccount (t : Nat) (pool pool' : LendingPool) (u : Address) : Prop where
  frame : pool.AccountFrame t pool'
  bits : ∀ i, (pool'.usersConfig u).borrowingBit i = (pool.usersConfig u).borrowingBit i
  positions : ∀ i, pool'.collateralAt u (pool'.usersConfig u) i =
    pool.collateralAt u (pool.usersConfig u) i

theorem SameAccount.trans {pool'' : LendingPool} (h : pool.SameAccount t pool' u)
    (h' : pool'.SameAccount t pool'' u) : pool.SameAccount t pool'' u where
  frame := h.frame.trans h'.frame
  bits i := (h'.bits i).trans (h.bits i)
  positions i := (h'.positions i).trans (h.positions i)

theorem SameAccount.samePositions (h : pool.SameAccount t pool' u) : pool.SamePositions pool' u :=
  ⟨h.frame.value, h.positions⟩

theorem SameAccount.healthFactor_le (same : pool.SameAccount t pool' u)
    (hdata : pool.calculateUserAccountData t u (pool.usersConfig u) = .ok account)
    (hdata' : pool'.calculateUserAccountData t u (pool'.usersConfig u) = .ok account') :
    account.healthFactor ≤ account'.healthFactor := by
  have less := same.frame.totalDebt_le same.bits hdata hdata'
  obtain ⟨_, _, hc, _, _, hthreshold, hhealth⟩ := calculateUserAccountData_eq_ok hdata
  obtain ⟨_, _, hc', _, _, hthreshold', hhealth'⟩ := calculateUserAccountData_eq_ok hdata'
  rw [same.samePositions.totalCollateral] at hc'
  rw [same.samePositions.totalCollateral, same.samePositions.weightedThreshold] at hthreshold'
  refine health_mono ?_ less hhealth hhealth'
  rw [hc, hc', hthreshold, hthreshold']

/-- The bits that a transfer clears are those of positions that it has emptied. -/
theorem finalizeTransfer_sameAccount {caller : Address} {worth beforeTo : Nat}
    (listing : pool.WellListed) (hlisted : (pool.reserves asset).elTokenAddress ≠ 0)
    (empty : amount = worth → u ≠ v → (pool.reserves asset).elToken.balances u = 0)
    (h : pool.finalizeTransfer t caller asset u v amount worth beforeTo = .ok pool') :
    pool.SameAccount t pool' u := by
  have frame := finalizeTransfer_accountFrame h
  refine ⟨frame, (finalizeTransfer_debtFrame h).bits u, ?_⟩
  intro i
  obtain ⟨_, _, ⟨_, rfl⟩ | ⟨hne, _, middle, hfrom, hto⟩⟩ := finalizeTransfer_eq_ok h
  · rfl
  · have last : pool'.reserves = middle.reserves ∧
        pool'.usersConfig u = middle.usersConfig u := by
      obtain ⟨_, _, hset⟩ | ⟨_, rfl⟩ := hto
      · obtain ⟨hres, _, _, hother⟩ := setUsingAsCollateral_holdings hset
        exact ⟨hres, hother u hne⟩
      · exact ⟨rfl, rfl⟩
    obtain ⟨hres, hconfig⟩ := last
    rw [hconfig]
    obtain ⟨hall, hset⟩ | ⟨_, rfl⟩ := hfrom
    · obtain ⟨hres', _, hbits, _⟩ := setUsingAsCollateral_holdings hset
      by_cases hi : i = (pool.reserves asset).id
      · subst hi
        obtain hblank | ⟨_, _, hlist⟩ := listing.known asset
        · exact absurd hblank.elToken hlisted
        · rw [collateralAt_clear (by rw [hbits, if_pos rfl]), collateralAt, hlist,
            empty hall hne]
          simp
      · refine frame.value.collateralAt ?_ ?_
        · rw [hbits, if_neg hi]
        · rw [hres, hres']
    · exact frame.value.collateralAt rfl (by rw [hres])

theorem transferELToken_healthy (listing : pool.WellListed)
    (hindex : RAY ≤ (pool.reserves asset).liquidityIndex)
    (hlisted : (pool.reserves asset).elTokenAddress ≠ 0)
    (h : pool.transferELToken t asset u v amount true = .ok pool') :
    ∃ (moved : LendingPool) (account : UserAccountData),
      moved.calculateUserAccountData t u (moved.usersConfig u) = .ok account ∧
      HEALTH_FACTOR_LIQUIDATION_THRESHOLD ≤ account.healthFactor ∧
      moved.SameAccount t pool' u := by
  obtain ⟨index, worth, beforeTo, scaled, balances, hview, hworth, _, hd, hmove, moved, hmoved,
    hfin⟩ := transferELToken_eq_ok h
  simp only [true_and, Bool.true_eq_false, false_and, or_false] at hfin
  have listing' : moved.WellListed := by
    rw [hmoved]
    exact listing.frame (setELToken_debtFrame pool asset _).listing
  have listed' : (moved.reserves asset).elTokenAddress ≠ 0 := by
    rw [hmoved]
    simpa using hlisted
  have empty : amount = worth → u ≠ v → (moved.reserves asset).elToken.balances u = 0 := by
    intro hall hne
    obtain ⟨_, hleft⟩ := moveBalance_sender hne hmove
    rw [hall] at hd
    have hround := rayDiv_rayMul (hindex.trans (Reserve.le_getNormalizedIncome hview)) hworth hd
    rw [hmoved]
    simp [hleft, hround]
  obtain ⟨_, hvalid, _⟩ := finalizeTransfer_eq_ok hfin
  simp only [validateTransfer, bind_eq_ok, require_eq_ok] at hvalid
  obtain ⟨account, hbefore, hge⟩ := hvalid
  exact ⟨moved, account, hbefore, hge, finalizeTransfer_sameAccount listing' listed' empty hfin⟩

theorem setELToken_sameAccount {elToken : ELToken} (t : Nat)
    (hbal : elToken.balances = (pool.reserves asset).elToken.balances) (u : Address) :
    pool.SameAccount t (pool.setReserve asset { pool.reserves asset with elToken }) u := by
  have frame := setELToken_accountFrame t pool asset elToken
  refine ⟨frame, fun _ => rfl, fun i => frame.value.collateralAt rfl ?_⟩
  by_cases ha : pool.reservesList i = asset
  · rw [ha]
    simp [hbal]
  · simp [ha]

theorem setUserUseReserveAsCollateral_off
    (h : pool.setUserUseReserveAsCollateral t u asset false = .ok pool') :
    (pool.reserves asset).elTokenAddress ≠ 0 ∧
      pool.balanceDecreaseAllowed t asset u ((pool.reserves asset).elToken.balances u)
        (pool.usersConfig u) = .ok true ∧
      pool.setUsingAsCollateral u (pool.reserves asset).id false = .ok pool' := by
  simp only [setUserUseReserveAsCollateral, validateSetUseReserveAsCollateral,
    Reserve.elTokenBalanceOf, requireContract, bind_eq_ok, require_eq_ok, pure_eq_ok,
    Bool.false_eq_true, if_false] at h
  obtain ⟨_, _, _, ⟨balance, ⟨_, hlisted, rfl⟩, _, _, allowed, hallowed, htrue⟩, hset⟩ := h
  rw [htrue] at hallowed
  exact ⟨hlisted, hallowed, hset⟩

/-- Without the position, exactly its value is gone from the collateral and from the weight. -/
theorem switchOff_sums (listing : pool.WellListed)
    (hlisted : (pool.reserves asset).elTokenAddress ≠ 0)
    (h : pool.setUsingAsCollateral u (pool.reserves asset).id false = .ok pool') :
    pool'.totalCollateral u (pool'.usersConfig u) +
        pool.collateralAt u (pool.usersConfig u) (pool.reserves asset).id =
      pool.totalCollateral u (pool.usersConfig u) ∧
    pool'.weightedThreshold u (pool'.usersConfig u) +
        pool.collateralAt u (pool.usersConfig u) (pool.reserves asset).id *
          (pool.reserves asset).configuration.getParams.liquidationThreshold =
      pool.weightedThreshold u (pool.usersConfig u) := by
  have frame := setUsingAsCollateral_accountFrame 0 h
  obtain ⟨hres, _, hbits, _⟩ := setUsingAsCollateral_holdings h
  obtain hblank | ⟨_, hid, hlist⟩ := listing.known asset
  · exact absurd hblank.elToken hlisted
  generalize (pool.reserves asset).id = k at hid hlist hbits ⊢
  have cleared : pool'.collateralAt u (pool'.usersConfig u) k = 0 :=
    collateralAt_clear (by rw [hbits, if_pos rfl])
  have same : ∀ i, i < pool.reservesCount → i ≠ k →
      pool'.collateralAt u (pool'.usersConfig u) i =
        pool.collateralAt u (pool.usersConfig u) i := by
    intro i _ hne
    refine frame.value.collateralAt ?_ ?_
    · rw [hbits, if_neg hne]
    · rw [hres]
  have total := sum_range_change hid same
  have weighted := sum_range_change (f := fun i => pool.collateralAt u (pool.usersConfig u) i *
      (pool.paramsAt i).liquidationThreshold) (g := fun i =>
      pool'.collateralAt u (pool'.usersConfig u) i * (pool.paramsAt i).liquidationThreshold) hid
    (fun i hi hne => by rw [same i hi hne])
  have at_k : (pool.paramsAt k).liquidationThreshold =
      (pool.reserves asset).configuration.getParams.liquidationThreshold := by
    rw [paramsAt, hlist]
  rw [cleared] at total
  rw [cleared, at_k, Nat.zero_mul] at weighted
  constructor
  · unfold totalCollateral
    rw [frame.count]
    exact total
  · unfold weightedThreshold
    simp only [frame.count, frame.value.paramsAt]
    exact weighted

theorem switchOff_healthy (listing : pool.WellListed)
    (hset : (pool.usersConfig u).collateralBit (pool.reserves asset).id = true)
    (hlt : (pool.reserves asset).configuration.getParams.liquidationThreshold ≠ 0)
    (h : pool.setUserUseReserveAsCollateral t u asset false = .ok pool')
    (hdata : pool'.calculateUserAccountData t u (pool'.usersConfig u) = .ok account') :
    HEALTH_FACTOR_LIQUIDATION_THRESHOLD ≤ account'.healthFactor := by
  obtain ⟨hlisted, hallowed, hoff⟩ := setUserUseReserveAsCollateral_off h
  have bits := (setUsingAsCollateral_debtFrame hoff).bits u
  obtain hnone | ⟨account, hbefore, hdebt⟩ := balanceDecreaseAllowed_eq_ok hset hlt hallowed
  · refine healthFactor_of_no_debt hdata (totalDebt_of_not_borrowing (fun i => ?_) hdata)
    rw [bits, UserConfigurationMap.isBorrowingAny_eq_false.mp hnone]
  · have less := (setUsingAsCollateral_accountFrame t hoff).totalDebt_le bits hbefore hdata
    obtain hz | hpromised := hdebt
    · exact healthFactor_of_no_debt hdata (by omega)
    · obtain ⟨decrease, health, hdecrease, hle, hhealth, hge⟩ :=
        healthFactorAfterDecrease_eq_ok hpromised
      obtain ⟨total, weighted⟩ := switchOff_sums listing hlisted hoff
      obtain hblank | ⟨_, _, hlist⟩ := listing.known asset
      · exact absurd hblank.elToken hlisted
      rw [collateralAt_set hlist hlt hset, hdecrease] at total weighted
      obtain ⟨_, _, hc, _, _, hthreshold, _⟩ := calculateUserAccountData_eq_ok hbefore
      obtain ⟨_, _, hc', _, _, hthreshold', hhealth'⟩ := calculateUserAccountData_eq_ok hdata
      have average := Nat.mul_div_le (pool.weightedThreshold u (pool.usersConfig u))
        (pool.totalCollateral u (pool.usersConfig u))
      have left : account.totalCollateralInETH - decrease =
          pool'.totalCollateral u (pool'.usersConfig u) := by omega
      refine Nat.le_trans hge (health_mono ?_ less hhealth hhealth')
      rw [left, hc', hthreshold', hc, hthreshold]
      exact Nat.mul_le_mul_left _ (Nat.div_le_div_right (by omega))

end LendingPool

open LendingPool

/-- Whoever sends elTokens away, by himself or through a spender, or switches a collateral off, has
a health factor of at least one afterwards. -/
theorem owner_stays_healthy {pool pool' : LendingPool} {t t₀ amount : Nat}
    {asset u recipient : Address} {account' : UserAccountData}
    (reach : Reachable .any t₀ pool) (hindex : RAY ≤ (pool.reserves asset).liquidityIndex)
    (h : pool.elTokenTransfer t u asset recipient amount = .ok pool' ∨
      (∃ msgSender, pool.elTokenTransferFrom t msgSender asset u recipient amount = .ok pool') ∨
      ((pool.usersConfig u).collateralBit (pool.reserves asset).id = true ∧
        (pool.reserves asset).configuration.getParams.liquidationThreshold ≠ 0 ∧
        pool.setUserUseReserveAsCollateral t u asset false = .ok pool'))
    (hdata : pool'.calculateUserAccountData t u (pool'.usersConfig u) = .ok account') :
    HEALTH_FACTOR_LIQUIDATION_THRESHOLD ≤ account'.healthFactor := by
  have listing := reach.marked.listing
  obtain htransfer | ⟨msgSender, htransfer⟩ | ⟨hset, hlt, hoff⟩ := h
  · simp only [elTokenTransfer, requireContract, bind_eq_ok, require_eq_ok] at htransfer
    obtain ⟨_, hlisted, htransfer⟩ := htransfer
    obtain ⟨moved, account, hbefore, hge, same⟩ :=
      transferELToken_healthy listing hindex hlisted htransfer
    exact hge.trans (same.healthFactor_le hbefore hdata)
  · obtain ⟨middle, _, hlisted, hmoved, _, happrove, rfl⟩ := elTokenTransferFrom_eq_ok htransfer
    cases ELToken.approve_eq_ok happrove
    obtain ⟨moved, account, hbefore, hge, same⟩ :=
      transferELToken_healthy listing hindex hlisted hmoved
    refine hge.trans (SameAccount.healthFactor_le (same.trans ?_) hbefore hdata)
    refine setELToken_sameAccount t ?_ u
    rfl
  · exact switchOff_healthy listing hset hlt hoff hdata

/-- Bob gives ten of his dai elTokens to alice while he owes weth. -/
theorem borrowedMarket_transfer :
    ∃ pool' account',
      borrowedMarket.elTokenTransfer 86400 Market.bob Market.dai Market.alice (10 ^ 19) =
        .ok pool' ∧
      pool'.calculateUserAccountData 86400 Market.bob (pool'.usersConfig Market.bob) =
        .ok account' ∧
      HEALTH_FACTOR_LIQUIDATION_THRESHOLD ≤ account'.healthFactor := by
  have success : succeedsWith
      (borrowedMarket.elTokenTransfer 86400 Market.bob Market.dai Market.alice (10 ^ 19))
      (fun pool' => (pool'.calculateUserAccountData 86400 Market.bob
        (pool'.usersConfig Market.bob)).isOk) = true := by decide +kernel
  obtain ⟨pool', ht, hok⟩ := succeedsWith_iff.mp success
  obtain ⟨account', hdata⟩ := exists_of_isOk hok
  exact ⟨pool', account', ht, hdata,
    owner_stays_healthy borrowedMarket_reachable (by decide +kernel) (.inl ht) hdata⟩

end ElectroLend
