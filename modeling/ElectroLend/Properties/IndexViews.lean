import ElectroLend.Lending.VariableReads
import ElectroLend.Pool.Scripts

namespace ElectroLend

open Outcome

/-- The indexes fit their storage fields of type `uint128`. -/
structure ReserveData.FitsStorage (r : ReserveData) : Prop where
  liquidityIndex : r.liquidityIndex ≤ uint128Max
  variableBorrowIndex : r.variableBorrowIndex ≤ uint128Max

theorem calculateCompoundedInterest_slow {rate last now : Nat} (hle : last ≤ now)
    (hnow : IsBlockTimestamp now) (hr : rate < SECONDS_PER_YEAR) :
    calculateCompoundedInterest rate last now = .ok RAY := by
  have hrate : rate ≤ uint128Max := (Nat.le_of_lt hr).trans (by decide)
  have hseconds : now - last < 2 ^ 40 := (Nat.sub_le now last).trans_lt hnow
  rw [calculateCompoundedInterest_total hrate hle hseconds, compoundFactor, Nat.div_eq_of_lt hr,
    TruncatedBinomial.power_base_zero]

theorem lt_calculateCompoundedInterest {rate last now c : Nat} (hlt : last < now)
    (hr : SECONDS_PER_YEAR ≤ rate) (h : calculateCompoundedInterest rate last now = .ok c) :
    RAY < c := by
  obtain ⟨_, hge⟩ := calculateCompoundedInterest_ge_linear h
  have hrate : 0 < rate / SECONDS_PER_YEAR := Nat.div_pos hr (by decide)
  have hterm : 0 < rate / SECONDS_PER_YEAR * (now - last) := Nat.mul_pos hrate (by omega)
  omega

theorem lt_rayMul_left {factor index next : Nat} (hi : RAY ≤ index) (hf : RAY < factor)
    (h : rayMul factor index = .ok next) : index < next := by
  obtain ⟨_, rfl⟩ := rayMul_eq_ok.mp h
  have hmul : (RAY + 1) * index ≤ factor * index := Nat.mul_le_mul_right index hf
  have hone : (index + 1) * RAY ≤ factor * index := by
    calc (index + 1) * RAY ≤ (RAY + 1) * index := by
          rw [Nat.add_mul, Nat.add_mul, Nat.mul_comm]
          omega
      _ ≤ factor * index := hmul
  exact HalfUp.le_of_mul_le hone RAY_pos

namespace Reserve

variable {r r' : Reserve} {t : Nat}

/-- The income view answers, with the stored index, whenever the update goes through. -/
theorem getNormalizedIncome_of_updateState (fits : r.FitsStorage) (ht : IsBlockTimestamp t)
    (hlast : r.lastUpdateTimestamp ≤ t) (h : r.updateState t = .ok r') :
    r.getNormalizedIncome t = .ok r'.liquidityIndex := by
  obtain ⟨li, _, _, _, hli, _, rfl, _⟩ := updateState_eq_ok h
  have hview : ∃ view, r.getNormalizedIncome t = .ok view := by
    simp only [getNormalizedIncome, ht.uint40]
    by_cases hnow : r.lastUpdateTimestamp = t
    · exact ⟨_, if_pos hnow⟩
    · rw [if_neg hnow]
      obtain ⟨hz, _⟩ | ⟨_, cumulated, hc, hm, _⟩ := nextLiquidityIndex_eq_ok hli
      · have hone : calculateLinearInterest r.currentLiquidityRate r.lastUpdateTimestamp t =
            .ok RAY := by
          rw [hz]
          refine calculateLinearInterest_eq_ok.mpr ⟨⟨hlast, by simp, ?_⟩, by simp⟩
          simp only [Nat.zero_mul, Nat.zero_div, Nat.zero_add]
          decide
        rw [hone, ok_bind]
        exact ⟨_, ray_rayMul fits.liquidityIndex⟩
      · rw [hc, ok_bind]
        exact ⟨_, hm⟩
  obtain ⟨view, hview⟩ := hview
  rw [hview, getNormalizedIncome_eq_next ht hview hli]

/-- The debt view answers with the stored index exactly when the update accrues, when there is
nothing to accrue, or when the variable rate is below one unit per second. -/
theorem getNormalizedDebt_eq_iff (fits : r.FitsStorage) (hv : RAY ≤ r.variableBorrowIndex)
    (ht : IsBlockTimestamp t) (hlast : r.lastUpdateTimestamp ≤ t)
    (hdebt : r.variableDebtToken.totalSupply ≠ 0) (h : r.updateState t = .ok r') :
    r.getNormalizedDebt t = .ok r'.variableBorrowIndex ↔
      0 < r.currentLiquidityRate ∨ r.lastUpdateTimestamp = t ∨
        r.currentVariableBorrowRate < SECONDS_PER_YEAR := by
  obtain ⟨_, vi, _, _, _, hvi, rfl, _⟩ := updateState_eq_ok h
  dsimp only
  have view_eq : r.getNormalizedDebt t =
      if r.lastUpdateTimestamp = t then .ok r.variableBorrowIndex
      else (do
        let cumulated ←
          calculateCompoundedInterest r.currentVariableBorrowRate r.lastUpdateTimestamp t
        rayMul cumulated r.variableBorrowIndex) := by
    simp only [getNormalizedDebt, ht.uint40]
  rw [view_eq]
  by_cases hnow : r.lastUpdateTimestamp = t
  · rw [if_pos hnow]
    refine ⟨fun _ => .inr (.inl hnow), fun _ => ?_⟩
    obtain ⟨_, rfl⟩ | ⟨_, _, cumulated, hc, hm, _⟩ := nextVariableBorrowIndex_eq_ok hvi
    · rfl
    · rw [hnow, calculateCompoundedInterest_self] at hc
      cases Except.ok.inj hc
      rw [rayMul_one_ray hm]
  · rw [if_neg hnow]
    obtain ⟨hz, rfl⟩ | ⟨hpos, _, cumulated, hc, hm, _⟩ := nextVariableBorrowIndex_eq_ok hvi
    · have hzero : r.currentLiquidityRate = 0 := by
        obtain hz | hz := hz
        · exact hz
        · exact absurd hz hdebt
      constructor
      · intro hview
        obtain ⟨cumulated, hc, hm⟩ := bind_eq_ok.mp hview
        refine .inr (.inr ?_)
        by_contra hfast
        have hlt := lt_rayMul_left hv
          (lt_calculateCompoundedInterest (by omega) (Nat.le_of_not_lt hfast) hc) hm
        omega
      · intro hcond
        have hslow : r.currentVariableBorrowRate < SECONDS_PER_YEAR := by omega
        rw [calculateCompoundedInterest_slow hlast ht hslow, ok_bind]
        exact ray_rayMul fits.variableBorrowIndex
    · rw [hc, ok_bind]
      exact ⟨fun _ => .inl hpos, fun _ => hm⟩

/-- Burning what the view reports of a user's variable debt at the stored index takes exactly his
scaled balance, when the view reads that index. -/
theorem scaled_of_view {u : Address} {index debt scaled : Nat} (hi : RAY ≤ index)
    (hview : r.getNormalizedDebt t = .ok index) (hdebt : r.variableDebtBalanceOf t u = .ok debt)
    (hd : rayDiv debt index = .ok scaled) : scaled = r.variableDebtToken.balances u := by
  obtain ⟨_, ⟨hz, rfl⟩ | ⟨_, index', hi', hm⟩⟩ := variableDebtBalanceOf_eq_ok.mp hdebt
  · obtain ⟨_, rfl⟩ := rayDiv_eq_ok.mp hd
    rw [Nat.zero_mul, HalfUp.zero_left]
    exact hz.symm
  · cases ok_unique hview hi'
    exact rayDiv_rayMul hi hm hd

end Reserve

/-- The views are the stored indexes exactly when there is no variable debt, or the liquidity rate
is positive, or the reserve was updated in this block already, or the variable rate is below one
unit per second; then a repayment of the whole variable debt burns exactly the scaled balance. -/
theorem index_views_are_stored_iff {r r' : Reserve} {t : Nat} (fits : r.FitsStorage)
    (hv : RAY ≤ r.variableBorrowIndex) (ht : IsBlockTimestamp t)
    (hlast : r.lastUpdateTimestamp ≤ t) (h : r.updateState t = .ok r') :
    ((r.getNormalizedIncome t = .ok r'.liquidityIndex ∧
        (r.variableDebtToken.scaledTotalSupply ≠ 0 →
          r.getNormalizedDebt t = .ok r'.variableBorrowIndex)) ↔
      (r.variableDebtToken.scaledTotalSupply = 0 ∨ 0 < r.currentLiquidityRate ∨
        r.lastUpdateTimestamp = t ∨ r.currentVariableBorrowRate < SECONDS_PER_YEAR)) ∧
    (r.getNormalizedDebt t = .ok r'.variableBorrowIndex → ∀ u debt scaled,
      r.variableDebtBalanceOf t u = .ok debt → rayDiv debt r'.variableBorrowIndex = .ok scaled →
      scaled = r'.variableDebtToken.scaledBalanceOf u) := by
  constructor
  · constructor
    · rintro ⟨_, hdebt⟩
      by_cases hz : r.variableDebtToken.scaledTotalSupply = 0
      · exact .inl hz
      · exact .inr ((Reserve.getNormalizedDebt_eq_iff fits hv ht hlast hz h).mp (hdebt hz))
    · intro hcond
      refine ⟨Reserve.getNormalizedIncome_of_updateState fits ht hlast h, fun hz => ?_⟩
      obtain hno | hcond := hcond
      · exact absurd hno hz
      · exact (Reserve.getNormalizedDebt_eq_iff fits hv ht hlast hz h).mpr hcond
  · intro hview u debt scaled hdebt hd
    obtain ⟨_, _, _, _, _, hvi, rfl, _⟩ := Reserve.updateState_eq_ok h
    have hindex := hv.trans (Reserve.le_nextVariableBorrowIndex hvi)
    have hscaled : scaled = r.variableDebtToken.balances u :=
      Reserve.scaled_of_view hindex hview hdebt hd
    exact hscaled

/-- Bob borrows in a market whose reserve factor leaves the depositors nothing. -/
def fullFactorMarket : LendingPool :=
  Market.endState (Market.setup 10000 ++
    [(1, Market.alice, .deposit Market.weth (10 ^ 20) Market.alice),
      (2, Market.bob, .deposit Market.dai (10 ^ 20) Market.bob),
      (3, Market.bob, .borrow Market.weth (5 * 10 ^ 19) 2 Market.bob)])

/-- A month later the debt view has accrued and the stored index does not move, so that bob
cannot repay all of his own debt. -/
theorem fullFactorMarket_view_not_stored :
    Reachable .any 3 fullFactorMarket ∧
      (∃ r', (fullFactorMarket.reserves Market.weth).updateState 2592003 = .ok r' ∧
        (RAY ≤ (fullFactorMarket.reserves Market.weth).liquidityIndex ∧
          RAY ≤ (fullFactorMarket.reserves Market.weth).variableBorrowIndex ∧
          (fullFactorMarket.reserves Market.weth).variableDebtToken.scaledTotalSupply ≠ 0) ∧
        ∃ view, (fullFactorMarket.reserves Market.weth).getNormalizedDebt 2592003 = .ok view ∧
          r'.variableBorrowIndex < view) ∧
      fullFactorMarket.repay 2592003 Market.bob Market.weth uint256Max 2 Market.bob =
        .error .safeMathSubtractionOverflow := by
  refine ⟨Market.endState_reachable (by decide +kernel) (by decide +kernel), ?_,
    failsWith_iff.mp (by decide +kernel)⟩
  have stored : succeedsWith ((fullFactorMarket.reserves Market.weth).updateState 2592003)
      (fun r' => decide (r'.variableBorrowIndex = RAY)) = true := by decide +kernel
  have ahead : succeedsWith ((fullFactorMarket.reserves Market.weth).getNormalizedDebt 2592003)
      (fun view => decide (RAY < view)) = true := by decide +kernel
  obtain ⟨r', hr, hindex⟩ := succeedsWith_iff.mp stored
  obtain ⟨view, hview, hlt⟩ := succeedsWith_iff.mp ahead
  simp only [decide_eq_true_eq] at hindex hlt
  exact ⟨r', hr, by decide +kernel, view, hview, by omega⟩

/-- In the block of the borrow itself the views are the stored indexes. -/
theorem fullFactorMarket_views_in_block :
    ∃ r', (fullFactorMarket.reserves Market.weth).updateState 3 = .ok r' ∧
      (fullFactorMarket.reserves Market.weth).getNormalizedIncome 3 = .ok r'.liquidityIndex ∧
      (fullFactorMarket.reserves Market.weth).getNormalizedDebt 3 =
        .ok r'.variableBorrowIndex := by
  have success : ((fullFactorMarket.reserves Market.weth).updateState 3).isOk = true := by
    decide +kernel
  obtain ⟨r', hr⟩ := exists_of_isOk success
  obtain ⟨views, _⟩ := index_views_are_stored_iff ⟨by decide +kernel, by decide +kernel⟩
    (by decide +kernel) (show (3 : Nat) < 2 ^ 40 by decide) (by decide +kernel) hr
  obtain ⟨income, debt⟩ := views.mpr (.inr (.inr (.inl (by decide +kernel))))
  exact ⟨r', hr, income, debt (by decide +kernel)⟩

end ElectroLend
