import ElectroLend.Properties.CollateralBits
import ElectroLend.Properties.FollowRates
import ElectroLend.Properties.StoredRates

namespace ElectroLend

open Outcome

namespace LendingPool

variable {pool pool' left right : LendingPool} {t amount debtToCover : Nat}
  {asset collateralAsset debtAsset u v : Address} {debt : CoveredDebt}

theorem coverDebt_frame (h : pool.coverDebt t collateralAsset debtAsset u debtToCover = .ok debt) :
    debt.pool.usersConfig = pool.usersConfig ∧ pool.OnBooks debt.pool debtAsset ∧
      (debt.pool.reserves collateralAsset).elToken.treasury =
        (pool.reserves collateralAsset).elToken.treasury := by
  obtain ⟨_, _, _, _, accrued, burned, _, _, _, _, _, _, _, h₁, h₂, h₃⟩ := coverDebt_eq_ok h
  obtain ⟨books, _⟩ :=
    ((updateState_onBooks h₁).trans (burnLiquidatedDebt_onBooks h₂)).updateInterestRates h₃
  have same := (burnLiquidatedDebt_holdings h₂ collateralAsset).trans
    (updateInterestRates_holdings h₃ collateralAsset).1
  obtain ⟨r, hr, rfl⟩ := updateState_eq_ok h₁
  refine ⟨same.config, books, ?_⟩
  rw [same.elToken]
  by_cases hsame : collateralAsset = debtAsset
  · subst hsame
    obtain ⟨_, _, _, _, _, _, rfl, _⟩ := Reserve.updateState_eq_ok hr
    simp [ELToken.creditTreasury]
  · simp [hsame]

theorem liquidationCall_payout {receiveLToken : Bool}
    (h : pool.liquidationCall t v collateralAsset debtAsset u debtToCover receiveLToken =
      .ok pool') :
    ∃ debt seized, pool.coverDebt t collateralAsset debtAsset u debtToCover = .ok debt ∧
      debt.pool.seizeCollateral t v collateralAsset u debt.maxCollateralToLiquidate
        receiveLToken = .ok seized ∧
      (if debt.maxCollateralToLiquidate = debt.userCollateralBalance then
          (seized.usersConfig u).setUsingAsCollateral (seized.reserves collateralAsset).id false
        else .ok (seized.usersConfig u)) = .ok (pool'.usersConfig u) ∧
      pool'.reserves = seized.reserves ∧
      moveBalance (seized.tokens debtAsset).balances v (pool.reserves debtAsset).elTokenAddress
        debt.actualDebtToLiquidate = .ok (pool'.tokens debtAsset).balances := by
  obtain ⟨debt, seized, marked, hcover, _, hseize, hbit, hpull⟩ := liquidationCall_eq_ok h
  obtain ⟨token, hpaid, rfl⟩ := pullUnderlying_eq_ok hpull
  obtain ⟨hall, hset⟩ | ⟨hpart, rfl⟩ := hbit
  · obtain ⟨config, hconfig, rfl⟩ := setUsingAsCollateral_eq_ok hset
    refine ⟨debt, seized, hcover, hseize, ?_, rfl, by simpa using hpaid⟩
    rw [if_pos hall, hconfig]
    simp
  · refine ⟨debt, seized, hcover, hseize, ?_, rfl, by simpa using hpaid⟩
    rw [if_neg hpart]
    simp

/-- What the two pools keep for the borrower is the same. -/
structure SameForBorrower (left right : LendingPool) (user : Address) : Prop where
  collateral : ∀ asset, (left.reserves asset).elToken.scaledBalanceOf user =
    (right.reserves asset).elToken.scaledBalanceOf user
  principal : ∀ asset, (left.reserves asset).stableDebtToken.principalBalanceOf user =
    (right.reserves asset).stableDebtToken.principalBalanceOf user
  rate : ∀ asset, (left.reserves asset).stableDebtToken.getUserStableRate user =
    (right.reserves asset).stableDebtToken.getUserStableRate user
  variableDebt : ∀ asset, (left.reserves asset).variableDebtToken.scaledBalanceOf user =
    (right.reserves asset).variableDebtToken.scaledBalanceOf user
  bitmap : left.usersConfig user = right.usersConfig user

/-- Both ways of taking over collateral cost the borrower the same units: the index that an elToken
transfer reads is the one that an accrual stores. -/
theorem seizeCollateral_same (ht : IsBlockTimestamp t) (hne : u ≠ v)
    (htreasury : u ≠ (pool.reserves asset).elToken.treasury)
    (hleft : pool.seizeCollateral t v asset u amount true = .ok left)
    (hright : pool.seizeCollateral t v asset u amount false = .ok right) :
    left.SameForBorrower right u ∧ (left.reserves asset).id = (right.reserves asset).id := by
  obtain ⟨view, none, units, hview, hunits, _, hbal, hid, hconfig⟩ :=
    seizeCollateral_holdings hne hleft
  obtain ⟨stored, minted, units', hstored, hunits', _, hbal', hid', hconfig'⟩ :=
    seizeCollateral_holdings hne hright
  obtain ⟨_, hview, rfl⟩ | ⟨hflag, _⟩ := hview
  · obtain ⟨hflag, _⟩ | ⟨_, hnext, r, hr, hcredit⟩ := hstored
    · cases hflag
    · cases Reserve.getNormalizedIncome_eq_next ht hview hnext
      cases ok_unique hunits hunits'
      -- the accrual mints to the treasury alone
      have unpaid : minted = 0 := by
        obtain ⟨_, _, credited, _, _, _, rfl, _⟩ := Reserve.updateState_eq_ok hr
        have same := ELToken.creditTreasury_other (pool.reserves asset).elToken credited htreasury
        dsimp only at hcredit
        omega
      have leftDebts := seizeCollateral_sameDebtTokens hleft
      have rightDebts := seizeCollateral_sameDebtTokens hright
      refine ⟨⟨fun a => ?_, fun a => ?_, fun a => ?_, fun a => ?_, ?_⟩, hid.trans hid'.symm⟩
      · by_cases ha : a = asset
        · rw [ha, ELToken.scaledBalanceOf, ELToken.scaledBalanceOf, hbal, hbal', unpaid]
        · rw [(seizeCollateral_touches hleft).reserves a ha,
            (seizeCollateral_touches hright).reserves a ha]
      · rw [leftDebts.stableDebtToken, rightDebts.stableDebtToken]
      · rw [leftDebts.stableDebtToken, rightDebts.stableDebtToken]
      · rw [leftDebts.variableDebtToken, rightDebts.variableDebtToken]
      · rw [hconfig, hconfig']
  · cases hflag

/-- The underlying that a liquidator has been handed when he comes to pay. -/
theorem seizeCollateral_balances {receiveLToken : Bool} (debtAsset : Address)
    (h : pool.seizeCollateral t v asset u amount receiveLToken = .ok pool') :
    (receiveLToken = false ∧ asset = debtAsset ∧
        moveBalance (pool.tokens asset).balances (pool.reserves asset).elTokenAddress v amount =
          .ok (pool'.tokens debtAsset).balances) ∨
      (¬(receiveLToken = false ∧ asset = debtAsset) ∧
        pool'.tokens debtAsset = pool.tokens debtAsset) := by
  by_cases hsame : asset = debtAsset
  · subst hsame
    obtain ⟨hflag, htransfer⟩ | ⟨hflag, hburn⟩ := ite_eq_ok.mp h
    · refine .inr ⟨by simp [hflag], ?_⟩
      rw [(seizeELToken_frame htransfer).2]
    · refine .inl ⟨by simpa using hflag, rfl, ?_⟩
      simp only [seizeUnderlying, bind_eq_ok] at hburn
      obtain ⟨p₁, h₁, p₂, h₂, h₃⟩ := hburn
      have books := updateState_onBooks h₁
      obtain ⟨rates, _⟩ := updateInterestRates_holdings h₂ asset
      obtain ⟨_, _, _, _, _, _, hsend⟩ := burnELToken_holdings h₃
      rw [updateInterestRates_tokens h₂, books.tokens, rates.address, books.elToken] at hsend
      exact hsend
  · refine .inr ⟨fun both => hsame both.2, ?_⟩
    exact (seizeCollateral_touches h).tokens debtAsset (Ne.symm hsame)

end LendingPool

open LendingPool

/-- Two liquidations of one position in the same block, paid out in elTokens and in underlying,
leave the borrower with the same balances and bits. The liquidator pays the same amount of the debt
asset for them, out of his balance or, where the collateral is the debt asset and he takes it in
underlying, out of his balance with the collateral in it. -/
theorem liquidation_payouts_cost_the_same {pool left right : LendingPool} {t : Nat}
    {liquidator collateralAsset debtAsset user : Address} {debtToCover : Nat}
    (ht : IsBlockTimestamp t) (hne : user ≠ liquidator)
    (htreasury : user ≠ (pool.reserves collateralAsset).elToken.treasury)
    (hleft : pool.liquidationCall t liquidator collateralAsset debtAsset user debtToCover true =
      .ok left)
    (hright : pool.liquidationCall t liquidator collateralAsset debtAsset user debtToCover false =
      .ok right) :
    left.SameForBorrower right user ∧
      ∃ debt handed, pool.coverDebt t collateralAsset debtAsset user debtToCover = .ok debt ∧
        moveBalance (pool.tokens debtAsset).balances liquidator
            (pool.reserves debtAsset).elTokenAddress debt.actualDebtToLiquidate =
          .ok (left.tokens debtAsset).balances ∧
        ((collateralAsset = debtAsset ∧
            moveBalance (pool.tokens debtAsset).balances
              (pool.reserves debtAsset).elTokenAddress liquidator debt.maxCollateralToLiquidate =
                .ok handed) ∨
          (collateralAsset ≠ debtAsset ∧ handed = (pool.tokens debtAsset).balances)) ∧
        moveBalance handed liquidator (pool.reserves debtAsset).elTokenAddress
            debt.actualDebtToLiquidate = .ok (right.tokens debtAsset).balances := by
  obtain ⟨debt, seized, hcover, hseize, hbit, hres, hpaid⟩ := liquidationCall_payout hleft
  obtain ⟨debt', seized', hcover', hseize', hbit', hres', hpaid'⟩ := liquidationCall_payout hright
  cases ok_unique hcover hcover'
  obtain ⟨_, books, htreasury'⟩ := coverDebt_frame hcover
  rw [← htreasury'] at htreasury
  obtain ⟨same, hid⟩ := seizeCollateral_same ht hne htreasury hseize hseize'
  have bitmap : left.usersConfig user = right.usersConfig user := by
    rw [same.bitmap, hid] at hbit
    exact ok_unique hbit hbit'
  refine ⟨⟨?_, ?_, ?_, ?_, bitmap⟩, debt, (seized'.tokens debtAsset).balances, hcover, ?_, ?_,
    hpaid'⟩
  · rw [hres, hres']
    exact same.collateral
  · rw [hres, hres']
    exact same.principal
  · rw [hres, hres']
    exact same.rate
  · rw [hres, hres']
    exact same.variableDebt
  · obtain ⟨hflag, _⟩ | ⟨_, kept⟩ := seizeCollateral_balances debtAsset hseize
    · cases hflag
    · rw [← books.tokens, ← kept]
      exact hpaid
  · obtain ⟨_, hsame, hsend⟩ | ⟨hdiff, kept⟩ := seizeCollateral_balances debtAsset hseize'
    · subst hsame
      rw [books.tokens, books.elToken] at hsend
      exact .inl ⟨rfl, hsend⟩
    · refine .inr ⟨fun hsame => hdiff ⟨rfl, hsame⟩, ?_⟩
      rw [kept, books.tokens]

/-- Carol covers 5 weth of bob's debt in weth, for elTokens or for underlying. -/
theorem fallenMarket_payouts :
    ∃ left right,
      fallenMarket.liquidationCall 5 Market.carol Market.weth Market.weth Market.bob
        (5 * 10 ^ 18) true = .ok left ∧
      fallenMarket.liquidationCall 5 Market.carol Market.weth Market.weth Market.bob
        (5 * 10 ^ 18) false = .ok right ∧ left.SameForBorrower right Market.bob := by
  have inELTokens : (fallenMarket.liquidationCall 5 Market.carol Market.weth Market.weth Market.bob
      (5 * 10 ^ 18) true).isOk = true := by decide +kernel
  have inUnderlying : (fallenMarket.liquidationCall 5 Market.carol Market.weth Market.weth
      Market.bob (5 * 10 ^ 18) false).isOk = true := by decide +kernel
  obtain ⟨left, hleft⟩ := exists_of_isOk inELTokens
  obtain ⟨right, hright⟩ := exists_of_isOk inUnderlying
  obtain ⟨same, _⟩ := liquidation_payouts_cost_the_same (show (5 : Nat) < 2 ^ 40 by decide)
    (show Market.bob ≠ Market.carol by decide) (by decide +kernel) hleft hright
  exact ⟨left, right, hleft, hright, same⟩

end ElectroLend
