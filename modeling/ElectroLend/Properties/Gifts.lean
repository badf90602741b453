import ElectroLend.Pool.AccountFrame
import ElectroLend.Pool.DebtFrame
import ElectroLend.Pool.HealthFactor
import ElectroLend.Pool.Holdings
import ElectroLend.Pool.Scripts

namespace ElectroLend

open Outcome

namespace LendingPool

/-- The user has lost no elTokens and no collateral bit. -/
structure Enriches (pool pool' : LendingPool) (u : Address) : Prop where
  balances : ∀ a, (pool.reserves a).elToken.balances u ≤ (pool'.reserves a).elToken.balances u
  bits : ∀ i, (pool.usersConfig u).collateralBit i = true →
    (pool'.usersConfig u).collateralBit i = true

variable {pool pool' : LendingPool} {t amount i : Nat} {asset u v : Address}

theorem Enriches.trans {pool'' : LendingPool} (h : pool.Enriches pool' u)
    (h' : pool'.Enriches pool'' u) : pool.Enriches pool'' u where
  balances a := (h.balances a).trans (h'.balances a)
  bits i hi := h'.bits i (h.bits i hi)

theorem Enriches.setReserve {r : Reserve}
    (h : (pool.reserves asset).elToken.balances u ≤ r.elToken.balances u) :
    pool.Enriches (pool.setReserve asset r) u where
  balances := setReserve_forall
    (P := fun a r' => (pool.reserves a).elToken.balances u ≤ r'.elToken.balances u) h
    fun _ => Nat.le_refl _
  bits _ hi := hi

theorem updateState_enriches (h : pool.updateState t asset = .ok pool') (u : Address) :
    pool.Enriches pool' u := by
  obtain ⟨r, hr, rfl⟩ := updateState_eq_ok h
  obtain ⟨li, vi, minted, _, _, _, rfl, _⟩ := Reserve.updateState_eq_ok hr
  refine .setReserve ?_
  by_cases hu : u = (pool.reserves asset).elToken.treasury
  · simp [ELToken.creditTreasury, hu]
  · exact (ELToken.creditTreasury_other _ _ hu).ge

theorem updateInterestRates_enriches {elToken : Address} {added taken : Nat}
    (h : pool.updateInterestRates t asset elToken added taken = .ok pool') (u : Address) :
    pool.Enriches pool' u := by
  obtain ⟨r, hr, rfl⟩ := updateInterestRates_eq_ok h
  obtain ⟨rates, _, rfl⟩ := Reserve.updateInterestRates_eq_ok hr
  exact .setReserve (Nat.le_refl _)

theorem mintELToken_enriches {first : Bool}
    (h : pool.mintELToken asset v amount = .ok (first, pool')) (u : Address) :
    pool.Enriches pool' u := by
  obtain ⟨token, hm, rfl⟩ := mintELToken_eq_ok h
  obtain ⟨scaled, _, _, hbals, _⟩ := ELToken.mint_eq_ok hm
  refine .setReserve ?_
  by_cases hu : u = v
  · simp [hbals, hu]
  · simp [hbals, hu]

theorem setUsingAsCollateral_enriches {n : Nat} {value : Bool} (hv : value = true ∨ u ≠ v)
    (h : pool.setUsingAsCollateral v n value = .ok pool') : pool.Enriches pool' u := by
  obtain ⟨hres, _, hbits, hothers⟩ := setUsingAsCollateral_holdings h
  refine ⟨fun a => by rw [hres], ?_⟩
  intro i hi
  by_cases hu : u = v
  · subst hu
    obtain rfl | hne := hv
    · rw [hbits]
      split
      · rfl
      · exact hi
    · exact absurd rfl hne
  · rw [hothers u hu]
    exact hi

theorem deposit_enriches {msgSender : Address}
    (h : pool.deposit t msgSender asset amount v = .ok pool') (u : Address) :
    pool.Enriches pool' u := by
  obtain ⟨p₁, p₂, p₃, first, p₄, h₁, h₂, h₃, h₄, hbit⟩ := deposit_eq_ok h
  have pulled : p₂.Enriches p₃ u := by
    obtain ⟨token, _, rfl⟩ := pullUnderlying_eq_ok h₃
    exact ⟨fun _ => Nat.le_refl _, fun _ h => h⟩
  have moved := (updateState_enriches h₁ u).trans ((updateInterestRates_enriches h₂ u).trans
    (pulled.trans (mintELToken_enriches h₄ u)))
  obtain ⟨_, hset⟩ | ⟨_, rfl⟩ := hbit
  · exact moved.trans (setUsingAsCollateral_enriches (.inl rfl) hset)
  · exact moved

theorem transferELToken_enriches (hne : v ≠ u)
    (h : pool.transferELToken t asset v u amount true = .ok pool') : pool.Enriches pool' u := by
  obtain ⟨_, _, _, scaled, balances, _, _, _, _, hmove, moved, rfl, hfin⟩ :=
    transferELToken_eq_ok h
  simp only [true_and, Bool.true_eq_false, false_and, or_false] at hfin
  have received := moveBalance_recipient hne hmove
  have first : pool.Enriches (pool.setReserve asset { pool.reserves asset with
      elToken := { (pool.reserves asset).elToken with balances } }) u :=
    .setReserve (by simp [received])
  obtain ⟨_, _, ⟨heq, _⟩ | ⟨_, _, middle, hfrom, hto⟩⟩ := finalizeTransfer_eq_ok hfin
  · exact absurd heq hne
  · have second : pool.Enriches middle u := by
      obtain ⟨_, hset⟩ | ⟨_, rfl⟩ := hfrom
      · exact first.trans (setUsingAsCollateral_enriches (.inr (Ne.symm hne)) hset)
      · exact first
    obtain ⟨_, _, hset⟩ | ⟨_, rfl⟩ := hto
    · exact second.trans (setUsingAsCollateral_enriches (.inl rfl) hset)
    · exact second

theorem Enriches.collateralAt_le (gift : pool.Enriches pool' u) (frame : pool.ValueFrame pool')
    (i : Nat) : pool.collateralAt u (pool.usersConfig u) i ≤
      pool'.collateralAt u (pool'.usersConfig u) i := by
  unfold collateralAt
  by_cases hc : pool.CountsAsCollateral (pool.usersConfig u) i
  · have hc' : pool'.CountsAsCollateral (pool'.usersConfig u) i := by
      refine ⟨?_, gift.bits i hc.2⟩
      rw [frame.paramsAt]
      exact hc.1
    rw [if_pos hc, if_pos hc', frame.paramsAt, frame.list, frame.price]
    exact Nat.div_le_div_right (Nat.mul_le_mul_left _ (gift.balances _))
  · rw [if_neg hc]
    exact Nat.zero_le _

theorem Enriches.totalCollateral_le (gift : pool.Enriches pool' u)
    (frame : pool.ValueFrame pool') :
    pool.totalCollateral u (pool.usersConfig u) ≤
      pool'.totalCollateral u (pool'.usersConfig u) := by
  unfold totalCollateral
  rw [frame.count]
  exact Finset.sum_le_sum fun i _ => gift.collateralAt_le frame i

theorem Enriches.weightedThreshold_le (gift : pool.Enriches pool' u)
    (frame : pool.ValueFrame pool') :
    pool.weightedThreshold u (pool.usersConfig u) ≤
      pool'.weightedThreshold u (pool'.usersConfig u) := by
  unfold weightedThreshold
  rw [frame.count]
  refine Finset.sum_le_sum fun i _ => ?_
  rw [frame.paramsAt]
  exact Nat.mul_le_mul_right _ (gift.collateralAt_le frame i)

/-- The product of a floored average with its total is short of the sum by less than the total. -/
theorem sum_le_average (weighted : Nat) {total : Nat} (hz : total = 0 → weighted = 0) :
    weighted ≤ total * (weighted / total) + total := by
  obtain rfl | hpos := Nat.eq_zero_or_pos total
  · simp [hz rfl]
  · have high := Nat.lt_mul_div_succ weighted hpos
    rw [Nat.mul_add] at high
    omega

theorem weightedThreshold_zero {config : UserConfigurationMap}
    (hz : pool.totalCollateral u config = 0) : pool.weightedThreshold u config = 0 := by
  refine Finset.sum_eq_zero fun i hi => ?_
  have each := Finset.sum_eq_zero_iff.mp hz i hi
  rw [each, Nat.zero_mul]

end LendingPool

open LendingPool

/-- A gift never lowers the collateral, its weight or the debt's cover; the health factor falls only
with the floored average threshold, and by no more than one step of it is worth. -/
theorem gift_effect {pool pool' : LendingPool} {t amount : Nat} {asset u : Address}
    {account account' : UserAccountData} (ht : IsBlockTimestamp t)
    (h : (∃ msgSender, pool.deposit t msgSender asset amount u = .ok pool') ∨
      (∃ msgSender, msgSender ≠ u ∧
        pool.elTokenTransfer t msgSender asset u amount = .ok pool') ∨
      ∃ msgSender sender, sender ≠ u ∧
        pool.elTokenTransferFrom t msgSender asset sender u amount = .ok pool')
    (hdata : pool.calculateUserAccountData t u (pool.usersConfig u) = .ok account)
    (hdata' : pool'.calculateUserAccountData t u (pool'.usersConfig u) = .ok account') :
    pool.weightedThreshold u (pool.usersConfig u) ≤
        pool'.weightedThreshold u (pool'.usersConfig u) ∧
      account.totalCollateralInETH ≤ account'.totalCollateralInETH ∧
      account'.totalDebtInETH ≤ account.totalDebtInETH ∧
      (account.avgLiquidationThreshold ≤ account'.avgLiquidationThreshold →
        account.healthFactor ≤ account'.healthFactor) ∧
      account.healthFactor ≤ account'.healthFactor +
        (account'.totalCollateralInETH / PERCENTAGE_FACTOR + 1) * WAD /
          account'.totalDebtInETH + 1 := by
  obtain ⟨gift, frame, bits⟩ : pool.Enriches pool' u ∧ pool.AccountFrame t pool' ∧
      ∀ i, (pool'.usersConfig u).borrowingBit i = (pool.usersConfig u).borrowingBit i := by
    obtain ⟨msgSender, hdeposit⟩ | ⟨msgSender, hne, htransfer⟩ |
      ⟨msgSender, sender, hne, htransfer⟩ := h
    · exact ⟨deposit_enriches hdeposit u, deposit_accountFrame ht hdeposit,
        (deposit_debtFrame hdeposit).bits u⟩
    · have kept := (elTokenTransfer_debtFrame htransfer).bits u
      simp only [elTokenTransfer, bind_eq_ok] at htransfer
      obtain ⟨_, _, htransfer⟩ := htransfer
      exact ⟨transferELToken_enriches hne htransfer, transferELToken_accountFrame htransfer, kept⟩
    · have kept := (elTokenTransferFrom_debtFrame htransfer).bits u
      obtain ⟨middle, _, _, hmoved, _, happrove, rfl⟩ := elTokenTransferFrom_eq_ok htransfer
      cases ELToken.approve_eq_ok happrove
      refine ⟨(transferELToken_enriches hne hmoved).trans ?_,
        (transferELToken_accountFrame hmoved).trans (setELToken_accountFrame t _ _ _), kept⟩
      exact .setReserve (Nat.le_refl _)
  have weight := gift.weightedThreshold_le frame.value
  have total := gift.totalCollateral_le frame.value
  have less := frame.totalDebt_le bits hdata hdata'
  obtain ⟨_, _, hc, _, _, hthreshold, hhealth⟩ := calculateUserAccountData_eq_ok hdata
  obtain ⟨_, _, hc', _, _, hthreshold', hhealth'⟩ := calculateUserAccountData_eq_ok hdata'
  rw [← hc, ← hc'] at total
  refine ⟨weight, total, less, ?_, ?_⟩
  · intro hle
    exact health_mono (Nat.mul_le_mul total hle) less hhealth hhealth'
  · refine health_le_add_gap ?_ less hhealth hhealth'
    have before := Nat.mul_div_le (pool.weightedThreshold u (pool.usersConfig u))
      (pool.totalCollateral u (pool.usersConfig u))
    have after := sum_le_average (pool'.weightedThreshold u (pool'.usersConfig u))
      weightedThreshold_zero
    rw [← hthreshold, ← hc] at before
    rw [← hthreshold', ← hc'] at after
    omega

/-- Bob owes dai against weth alone; dai would count as collateral at a lower threshold. -/
def mixedMarket : LendingPool :=
  Market.endState (Market.setup 1000 ++
    [(0, Market.poolAddress,
        .setConfiguration Market.dai (Market.collateralConfiguration 6500 7000 10500)),
      (1, Market.alice, .deposit Market.dai (10 ^ 20) Market.alice),
      (2, Market.bob, .deposit Market.weth (10 ^ 20) Market.bob),
      (3, Market.bob, .borrow Market.dai (5 * 10 ^ 19) 2 Market.bob)])

/-- One unit of dai, given by carol, floors bob's average threshold down. -/
theorem mixedMarket_gift_lowers_health :
    Reachable .any 3 mixedMarket ∧ ∃ pool' account account',
      mixedMarket.deposit 3 Market.carol Market.dai 1 Market.bob = .ok pool' ∧
      mixedMarket.calculateUserAccountData 3 Market.bob (mixedMarket.usersConfig Market.bob) =
        .ok account ∧
      pool'.calculateUserAccountData 3 Market.bob (pool'.usersConfig Market.bob) = .ok account' ∧
      0 < account.totalDebtInETH ∧ account'.healthFactor < account.healthFactor := by
  refine ⟨Market.endState_reachable (by decide +kernel) (by decide +kernel), ?_⟩
  have before : succeedsWith
      (mixedMarket.calculateUserAccountData 3 Market.bob (mixedMarket.usersConfig Market.bob))
      (fun account => decide (0 < account.totalDebtInETH ∧
        account.healthFactor = 16 * 10 ^ 17)) = true := by decide +kernel
  have after : succeedsWith (mixedMarket.deposit 3 Market.carol Market.dai 1 Market.bob)
      (fun pool' => succeedsWith
        (pool'.calculateUserAccountData 3 Market.bob (pool'.usersConfig Market.bob))
        (fun account' => decide (account'.healthFactor < 16 * 10 ^ 17))) = true := by
    decide +kernel
  obtain ⟨account, hdata, hbefore⟩ := succeedsWith_iff.mp before
  obtain ⟨pool', hdeposit, hafter⟩ := succeedsWith_iff.mp after
  obtain ⟨account', hdata', hless⟩ := succeedsWith_iff.mp hafter
  simp only [decide_eq_true_eq] at hbefore hless
  exact ⟨pool', account, account', hdeposit, hdata, hdata', hbefore.1, by omega⟩

/-- The same gift, bounded. -/
theorem mixedMarket_gift_effect :
    ∃ pool' account account',
      mixedMarket.deposit 3 Market.carol Market.dai 1 Market.bob = .ok pool' ∧
      mixedMarket.calculateUserAccountData 3 Market.bob (mixedMarket.usersConfig Market.bob) =
        .ok account ∧
      pool'.calculateUserAccountData 3 Market.bob (pool'.usersConfig Market.bob) = .ok account' ∧
      account.healthFactor ≤ account'.healthFactor +
        (account'.totalCollateralInETH / PERCENTAGE_FACTOR + 1) * WAD /
          account'.totalDebtInETH + 1 := by
  have before : (mixedMarket.calculateUserAccountData 3 Market.bob
      (mixedMarket.usersConfig Market.bob)).isOk = true := by decide +kernel
  have after : succeedsWith (mixedMarket.deposit 3 Market.carol Market.dai 1 Market.bob)
      (fun pool' => (pool'.calculateUserAccountData 3 Market.bob
        (pool'.usersConfig Market.bob)).isOk) = true := by decide +kernel
  obtain ⟨account, hdata⟩ := exists_of_isOk before
  obtain ⟨pool', hdeposit, hafter⟩ := succeedsWith_iff.mp after
  obtain ⟨account', hdata'⟩ := exists_of_isOk hafter
  obtain ⟨_, _, _, _, hbound⟩ := gift_effect (show (3 : Nat) < 2 ^ 40 by decide)
    (.inl ⟨Market.carol, hdeposit⟩) hdata hdata'
  exact ⟨pool', account, account', hdeposit, hdata, hdata', hbound⟩

end ElectroLend
