import ElectroLend.Lending.StableReads
import ElectroLend.Pool.AccountFrame
import ElectroLend.Pool.DebtFrame
import ElectroLend.Pool.Holdings

namespace ElectroLend

open Outcome

namespace Reserve

variable {r r' : Reserve} {t amount stable stable' variableDebt variableDebt' : Nat}
  {user u : Address} {first : Bool}

theorem stableDebt_after_mint {rate : Nat} (ht : IsBlockTimestamp t)
    (hmint : r.stableDebtToken.mint t user u amount rate = .ok (first, r'.stableDebtToken))
    (h : r.stableDebtBalanceOf t u = .ok stable) (h' : r'.stableDebtBalanceOf t u = .ok stable') :
    stable' = stable + amount := by
  obtain ⟨balance, _, _, _, hbal, _, _, _, _, _, hbals, _, _, htime, _⟩ :=
    StableDebtToken.mint_eq_ok hmint
  cases ok_unique (stableDebtBalanceOf_view h) hbal
  have now := StableDebtToken.balanceOf_now ht (by simp [htime]) (stableDebtBalanceOf_view h')
  rw [now, hbals, Function.update_self]

theorem variableDebt_after_mint (hlast : r'.lastUpdateTimestamp = uint40 t)
    (hle : ∀ view, r.getNormalizedDebt t = .ok view → r'.variableBorrowIndex ≤ view)
    (hmint : r.variableDebtToken.mint user u amount r'.variableBorrowIndex =
      .ok (first, r'.variableDebtToken))
    (h : r.variableDebtBalanceOf t u = .ok variableDebt)
    (h' : r'.variableDebtBalanceOf t u = .ok variableDebt') :
    variableDebt' ≤ variableDebt + amount + (r'.variableBorrowIndex / (2 * RAY) + 1) := by
  obtain ⟨scaled, hd, _, hbals, _⟩ := VariableDebtToken.mint_eq_ok hmint
  obtain ⟨_, hscaled⟩ := rayDiv_eq_ok.mp hd
  have bound := HalfUp.add_scaled_le RAY_pos hscaled (r.variableDebtToken.balances u)
  have owed := scaled_le_variableDebt hle h
  rw [variableDebt_now hlast h', hbals, Function.update_self]
  omega

end Reserve

namespace LendingPool

variable {pool pool' : LendingPool} {t amount : Nat} {asset u v : Address}

theorem setBorrowing_holdings {n : Nat} {value : Bool}
    (h : pool.setBorrowing u n value = .ok pool') :
    pool'.reserves = pool.reserves ∧
      ∀ w i, (pool'.usersConfig w).collateralBit i = (pool.usersConfig w).collateralBit i := by
  obtain ⟨config, hc, rfl⟩ := setBorrowing_eq_ok h
  obtain ⟨_, _, hbits⟩ := UserConfigurationMap.setBorrowing_eq_ok hc
  refine ⟨rfl, ?_⟩
  intro w i
  by_cases hw : w = u
  · subst hw
    simpa using hbits i
  · simp [hw]

/-- What a loan writes: the accrued reserve with the debt minted, in one token or the other. -/
structure OpensLoan (t : Nat) (vars : ExecuteBorrowParams) (pool pool' : LendingPool) : Prop where
  frame : pool.ValueFrame pool'
  others : ∀ a, a ≠ vars.asset → pool'.reserves a = pool.reserves a
  bits : ∀ w i, (pool'.usersConfig w).collateralBit i = (pool.usersConfig w).collateralBit i
  accrued : ∃ r, (pool.reserves vars.asset).updateState t = .ok r ∧
    (pool'.reserves vars.asset).elToken = r.elToken ∧
    (pool'.reserves vars.asset).variableBorrowIndex = r.variableBorrowIndex ∧
    (pool'.reserves vars.asset).lastUpdateTimestamp = r.lastUpdateTimestamp
  minted : (vars.interestRateMode = 1 ∧ (pool'.reserves vars.asset).variableDebtToken =
        (pool.reserves vars.asset).variableDebtToken ∧
      ∃ first rate, (pool.reserves vars.asset).stableDebtToken.mint t vars.user vars.onBehalfOf
        vars.amount rate = .ok (first, (pool'.reserves vars.asset).stableDebtToken)) ∨
    (vars.interestRateMode ≠ 1 ∧
      (pool'.reserves vars.asset).stableDebtToken = (pool.reserves vars.asset).stableDebtToken ∧
      ∃ first, (pool.reserves vars.asset).variableDebtToken.mint vars.user vars.onBehalfOf
        vars.amount (pool'.reserves vars.asset).variableBorrowIndex =
          .ok (first, (pool'.reserves vars.asset).variableDebtToken))

theorem mintDebt_eq_ok {vars : ExecuteBorrowParams} {first : Bool}
    (h : pool.mintDebt t vars = .ok (first, pool')) :
    ∃ stableDebtToken variableDebtToken,
      pool' = pool.setReserve vars.asset
        { pool.reserves vars.asset with stableDebtToken, variableDebtToken } ∧
      ((vars.interestRateMode = 1 ∧
          variableDebtToken = (pool.reserves vars.asset).variableDebtToken ∧
          ∃ rate, (pool.reserves vars.asset).stableDebtToken.mint t vars.user vars.onBehalfOf
            vars.amount rate = .ok (first, stableDebtToken)) ∨
        (vars.interestRateMode ≠ 1 ∧
          stableDebtToken = (pool.reserves vars.asset).stableDebtToken ∧
          (pool.reserves vars.asset).variableDebtToken.mint vars.user vars.onBehalfOf vars.amount
            (pool.reserves vars.asset).variableBorrowIndex = .ok (first, variableDebtToken))) := by
  simp only [mintDebt, bind_eq_ok, ite_eq_ok] at h
  obtain ⟨mode, hmode, ⟨hs, hm⟩ | ⟨hs, hm⟩⟩ := h
  · obtain ⟨token, hmint, rfl⟩ := mintStableDebt_eq_ok hm
    exact ⟨token, _, rfl, .inl ⟨InterestRateMode.fromNat_stable.mp (hs ▸ hmode), rfl, _, hmint⟩⟩
  · obtain ⟨token, hmint, rfl⟩ := mintVariableDebt_eq_ok hm
    refine ⟨_, token, rfl, .inr ⟨?_, rfl, hmint⟩⟩
    intro hone
    exact hs (ok_unique hmode (InterestRateMode.fromNat_stable.mpr hone))

theorem executeBorrow_opensLoan {vars : ExecuteBorrowParams}
    (h : pool.executeBorrow t vars = .ok pool') : OpensLoan t vars pool pool' := by
  obtain ⟨p₁, first, p₂, p₃, p₄, _, h₁, h₂, hbit, h₄, hsend⟩ := executeBorrow_eq_ok h
  obtain ⟨r, hr, rfl⟩ := updateState_eq_ok h₁
  obtain ⟨stableDebtToken, variableDebtToken, rfl, hmint⟩ := mintDebt_eq_ok h₂
  have marked : p₃.reserves = ((pool.setReserve vars.asset r).setReserve vars.asset
        { (pool.setReserve vars.asset r).reserves vars.asset with
          stableDebtToken, variableDebtToken }).reserves ∧
      (∀ w i, (p₃.usersConfig w).collateralBit i = (pool.usersConfig w).collateralBit i) ∧
      p₃.reservesCount = pool.reservesCount ∧ p₃.reservesList = pool.reservesList ∧
      p₃.priceOracle = pool.priceOracle := by
    obtain ⟨_, hset⟩ | ⟨_, rfl⟩ := hbit
    · obtain ⟨hres, hbits⟩ := setBorrowing_holdings hset
      obtain ⟨_, _, rfl⟩ := setBorrowing_eq_ok hset
      exact ⟨hres, hbits, rfl, rfl, rfl⟩
    · exact ⟨rfl, fun _ _ => rfl, rfl, rfl, rfl⟩
  obtain ⟨hres, hbits, hcount, hlist, hprice⟩ := marked
  obtain ⟨r', hr', rfl⟩ := updateInterestRates_eq_ok h₄
  obtain ⟨rates, _, rfl⟩ := Reserve.updateInterestRates_eq_ok hr'
  have sent : ∃ tokens, pool' = { p₃.setReserve vars.asset { p₃.reserves vars.asset with
      currentLiquidityRate := rates.liquidityRate
      currentStableBorrowRate := rates.stableBorrowRate
      currentVariableBorrowRate := rates.variableBorrowRate } with tokens } := by
    obtain ⟨_, hsend⟩ | ⟨_, rfl⟩ := hsend
    · obtain ⟨token, _, rfl⟩ := transferUnderlyingTo_eq_ok hsend
      exact ⟨_, rfl⟩
    · exact ⟨_, rfl⟩
  obtain ⟨tokens, rfl⟩ := sent
  obtain ⟨li, vi, credited, _, _, _, hreq, _⟩ := Reserve.updateState_eq_ok hr
  refine ⟨⟨hcount, hlist, hprice, ?_⟩, ?_, hbits, ⟨r, hr, ?_, ?_, ?_⟩, ?_⟩
  · intro a
    by_cases ha : a = vars.asset
    · subst ha
      simp [hres, hreq]
    · simp [hres, ha]
  · intro a ha
    simp [hres, ha]
  · simp [hres]
  · simp [hres]
  · simp [hres]
  · simp only [setReserve_reserves, Function.update_self] at hmint
    simp only [setReserve_reserves, hres, Function.update_self]
    rw [hreq] at hmint ⊢
    obtain ⟨hmode, rfl, rate, hmint⟩ | ⟨hmode, rfl, hmint⟩ := hmint
    · exact .inl ⟨hmode, rfl, first, rate, hmint⟩
    · exact .inr ⟨hmode, rfl, first, hmint⟩

/-- What the two debts of the borrower read together after the loan. -/
theorem OpensLoan.debt_le {vars : ExecuteBorrowParams} (ht : IsBlockTimestamp t)
    (loan : OpensLoan t vars pool pool') {stable variableDebt stable' variableDebt' : Nat}
    (hs : (pool.reserves vars.asset).stableDebtBalanceOf t vars.onBehalfOf = .ok stable)
    (hv : (pool.reserves vars.asset).variableDebtBalanceOf t vars.onBehalfOf = .ok variableDebt)
    (hs' : (pool'.reserves vars.asset).stableDebtBalanceOf t vars.onBehalfOf = .ok stable')
    (hv' : (pool'.reserves vars.asset).variableDebtBalanceOf t vars.onBehalfOf =
      .ok variableDebt') :
    stable' + variableDebt' ≤ stable + variableDebt + vars.amount +
      ((pool'.reserves vars.asset).variableBorrowIndex / (2 * RAY) + 1) := by
  obtain ⟨r, hr, _, hindex, htime⟩ := loan.accrued
  obtain ⟨li, vi, credited, _, _, hvi, hreq, _⟩ := Reserve.updateState_eq_ok hr
  have hlast : (pool'.reserves vars.asset).lastUpdateTimestamp = uint40 t := by
    rw [htime, hreq]
  have hnext : (pool'.reserves vars.asset).variableBorrowIndex = vi := by
    rw [hindex, hreq]
  have hle : ∀ view, (pool.reserves vars.asset).getNormalizedDebt t = .ok view →
      (pool'.reserves vars.asset).variableBorrowIndex ≤ view := by
    intro view hview
    rw [hnext]
    exact Reserve.next_le_getNormalizedDebt ht hview hvi
  obtain ⟨_, hsame, first, rate, hmint⟩ | ⟨_, hsame, first, hmint⟩ := loan.minted
  · have hstable := Reserve.stableDebt_after_mint ht hmint hs hs'
    have hvariable := Reserve.variableDebt_now hlast hv'
    have owed := Reserve.scaled_le_variableDebt hle hv
    rw [hsame] at hvariable
    have sum : stable' + variableDebt' ≤ stable + variableDebt + vars.amount := by omega
    exact sum.trans (Nat.le_add_right _ _)
  · have hvariable := Reserve.variableDebt_after_mint hlast hle hmint hv hv'
    have hsame' := Reserve.stableDebtBalanceOf_view hs'
    rw [hsame] at hsame'
    cases ok_unique (Reserve.stableDebtBalanceOf_view hs) hsame'
    omega

theorem OpensLoan.samePositions {vars : ExecuteBorrowParams} (loan : OpensLoan t vars pool pool')
    (hu : u ≠ (pool.reserves vars.asset).elToken.treasury) : pool.SamePositions pool' u := by
  refine ⟨loan.frame, fun i => loan.frame.collateralAt (loan.bits u i) ?_⟩
  by_cases ha : pool.reservesList i = vars.asset
  · obtain ⟨r, hr, helToken, _⟩ := loan.accrued
    obtain ⟨li, vi, credited, _, _, _, hreq, _⟩ := Reserve.updateState_eq_ok hr
    rw [ha, helToken, hreq]
    exact ELToken.creditTreasury_other _ _ hu
  · rw [loan.others _ ha]

end LendingPool

end ElectroLend
