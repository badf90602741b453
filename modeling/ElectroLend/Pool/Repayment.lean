import ElectroLend.Lending.StableReads
import ElectroLend.Lending.VariableReads
import ElectroLend.Pool.RatesFrame
import ElectroLend.Pool.ScaledUnits

namespace ElectroLend

open Outcome

namespace LendingPool

variable {pool pool' : LendingPool} {t amount paid rateMode : Nat} {asset msgSender u : Address}

/-- The debt of one mode. -/
def debtOf (pool : LendingPool) (t : Nat) (asset : Address) (mode : InterestRateMode)
    (u : Address) : Result Nat :=
  if mode = .stable then (pool.reserves asset).stableDebtBalanceOf t u
  else (pool.reserves asset).variableDebtBalanceOf t u

/-- How far a change of the debt can be off the amount asked for. -/
def debtRounding (pool : LendingPool) (asset : Address) (mode : InterestRateMode) : Nat :=
  if mode = .stable then 0 else (pool.reserves asset).variableBorrowIndex / (2 * RAY) + 1

/-- The debt has fallen by `paid`, up to its rounding. -/
structure DebtFalls (pool pool' : LendingPool) (t : Nat) (asset : Address)
    (mode : InterestRateMode) (u : Address) (paid : Nat) : Prop where
  falls : ∃ debt debt', pool.debtOf t asset mode u = .ok debt ∧
    pool'.debtOf t asset mode u = .ok debt' ∧
    debt ≤ debt' + paid + pool'.debtRounding asset mode ∧
    debt' + paid ≤ debt + pool'.debtRounding asset mode

theorem debtOf_stable : pool.debtOf t asset .stable u = (pool.reserves asset).stableDebtBalanceOf t u :=
  if_pos rfl

theorem debtOf_variable :
    pool.debtOf t asset .variable u = (pool.reserves asset).variableDebtBalanceOf t u :=
  if_neg (by decide)

/-- Both pools read the debts of the asset from the same tokens, at the same index. -/
structure SameDebts (pool pool' : LendingPool) (asset : Address) : Prop where
  stableDebtToken : (pool'.reserves asset).stableDebtToken = (pool.reserves asset).stableDebtToken
  variableDebtToken :
    (pool'.reserves asset).variableDebtToken = (pool.reserves asset).variableDebtToken
  stableDebtTokenAddress :
    (pool'.reserves asset).stableDebtTokenAddress = (pool.reserves asset).stableDebtTokenAddress
  variableDebtTokenAddress :
    (pool'.reserves asset).variableDebtTokenAddress =
      (pool.reserves asset).variableDebtTokenAddress
  indexes : pool.SameIndexes pool' asset

theorem SameDebts.of_reserves (h : pool'.reserves = pool.reserves) (asset : Address) :
    pool.SameDebts pool' asset :=
  ⟨by rw [h], by rw [h], by rw [h], by rw [h], .of_reserves h asset⟩

theorem SameDebts.trans {pool'' : LendingPool} (h : pool.SameDebts pool' asset)
    (h' : pool'.SameDebts pool'' asset) : pool.SameDebts pool'' asset where
  stableDebtToken := h'.stableDebtToken.trans h.stableDebtToken
  variableDebtToken := h'.variableDebtToken.trans h.variableDebtToken
  stableDebtTokenAddress := h'.stableDebtTokenAddress.trans h.stableDebtTokenAddress
  variableDebtTokenAddress := h'.variableDebtTokenAddress.trans h.variableDebtTokenAddress
  indexes := h.indexes.trans h'.indexes

theorem updateInterestRates_sameDebts {elToken : Address} {added taken : Nat}
    (h : pool.updateInterestRates t asset elToken added taken = .ok pool') :
    pool.SameDebts pool' asset := by
  have indexes := updateInterestRates_indexes h
  obtain ⟨r, hr, rfl⟩ := updateInterestRates_eq_ok h
  obtain ⟨rates, _, rfl⟩ := Reserve.updateInterestRates_eq_ok hr
  exact ⟨by simp, by simp, by simp, by simp, indexes⟩

section Burns

variable {p₁ p₂ : LendingPool} {debt : Nat}

/-- After an accrual, a stable burn takes exactly its amount from the debt. -/
theorem burnStableDebt_falls (ht : IsBlockTimestamp t)
    (hdebt : pool.debtOf t asset .stable u = .ok debt)
    (h₁ : pool.updateState t asset = .ok p₁)
    (h₂ : p₁.burnStableDebt t asset u amount = .ok p₂) (same : p₂.SameDebts pool' asset) :
    pool.DebtFalls pool' t asset .stable u amount := by
  obtain ⟨r, hr, rfl⟩ := updateState_eq_ok h₁
  obtain ⟨_, _, _, _, _, _, rfl, _⟩ := Reserve.updateState_eq_ok hr
  obtain ⟨token, hburn, rfl⟩ := burnStableDebt_eq_ok h₂
  obtain ⟨listed, hview⟩ := Reserve.stableDebtBalanceOf_eq_ok.mp (debtOf_stable.symm.trans hdebt)
  simp only [setReserve_reserves, Function.update_self] at hburn
  obtain ⟨hle, hafter⟩ := StableDebtToken.balanceOf_after_burn ht hview hburn
  refine ⟨debt, debt - amount, hdebt, ?_, by omega, by omega⟩
  rw [debtOf_stable, Reserve.stableDebtBalanceOf_eq_ok, same.stableDebtTokenAddress,
    same.stableDebtToken]
  simp only [setReserve_reserves, Function.update_self]
  exact ⟨listed, hafter⟩

/-- After an accrual, a variable burn takes its amount up to the rounding of its scaled units. -/
theorem burnVariableDebt_falls (ht : IsBlockTimestamp t)
    (accrues : 0 < (pool.reserves asset).currentLiquidityRate ∨
      (pool.reserves asset).lastUpdateTimestamp = t)
    (hdebt : pool.debtOf t asset .variable u = .ok debt)
    (h₁ : pool.updateState t asset = .ok p₁)
    (h₂ : p₁.burnVariableDebt asset u amount = .ok p₂) (same : p₂.SameDebts pool' asset) :
    pool.DebtFalls pool' t asset .variable u amount := by
  obtain ⟨r, hr, rfl⟩ := updateState_eq_ok h₁
  obtain ⟨li, vi, _, _, _, hvi, rfl, _⟩ := Reserve.updateState_eq_ok hr
  obtain ⟨token, hburn, rfl⟩ := burnVariableDebt_eq_ok h₂
  simp only [setReserve_reserves, Function.update_self] at hburn
  have hview := debtOf_variable.symm.trans hdebt
  have listed := Reserve.variableDebtBalanceOf_listed hview
  have before : (pool.reserves asset).variableDebtToken.debtAt vi u = .ok debt := by
    obtain ⟨_, _, hne, hle, hsupply, _⟩ := VariableDebtToken.burn_eq_ok hburn
    rw [← Reserve.variableDebtBalanceOf_at listed
      (fun _ => Reserve.getNormalizedDebt_of_next ht accrues (by omega) hvi)]
    exact hview
  obtain ⟨debt', hafter, falls⟩ := VariableDebtToken.burn_moves_debt hburn before
  have rounding : pool'.debtRounding asset .variable = vi / (2 * RAY) + 1 := by
    simp [debtRounding, same.indexes.variableBorrowIndex]
  have after : pool'.debtOf t asset .variable u = .ok debt' := by
    have hlast : (pool'.reserves asset).lastUpdateTimestamp = uint40 t := by
      simp [same.indexes.timestamp]
    have listed' : (pool'.reserves asset).variableDebtTokenAddress ≠ 0 := by
      simpa [same.variableDebtTokenAddress] using listed
    rw [debtOf_variable, Reserve.variableDebtBalanceOf_at listed'
      (fun _ => Reserve.getNormalizedDebt_now hlast), same.variableDebtToken,
      same.indexes.variableBorrowIndex]
    simpa only [setReserve_reserves, Function.update_self] using hafter
  refine ⟨debt, debt', hdebt, after, ?_, ?_⟩
  · rw [rounding]
    exact falls.1
  · rw [rounding]
    exact falls.2

end Burns

theorem paybackAmount_eq_min {stable variableDebt : Nat} {mode : InterestRateMode} :
    paybackAmount amount stable variableDebt mode =
      min amount (if mode = .stable then stable else variableDebt) := by
  simp only [paybackAmount]
  generalize (if mode = .stable then stable else variableDebt) = debt
  by_cases hlt : amount < debt
  · rw [if_pos hlt, Nat.min_eq_left hlt.le]
  · rw [if_neg hlt, Nat.min_eq_right (Nat.le_of_not_lt hlt)]

theorem paybackAmount_of_debtOf {stable variableDebt debt : Nat} {mode : InterestRateMode}
    (hdebts : (pool.reserves asset).getUserCurrentDebt t u = .ok (stable, variableDebt))
    (hdebt : pool.debtOf t asset mode u = .ok debt) :
    paybackAmount amount stable variableDebt mode = min amount debt := by
  simp only [Reserve.getUserCurrentDebt, bind_eq_ok, pure_eq_ok, Prod.mk.injEq] at hdebts
  obtain ⟨_, hs, _, hv, rfl, rfl⟩ := hdebts
  rw [paybackAmount_eq_min]
  unfold debtOf at hdebt
  split at hdebt
  next hm => rw [if_pos hm, ok_unique hs hdebt]
  next hm => rw [if_neg hm, ok_unique hv hdebt]

theorem repay_debts {result : Nat × LendingPool}
    (h : pool.repay t msgSender asset amount rateMode u = .ok result) :
    ∃ stable variableDebt,
      (pool.reserves asset).getUserCurrentDebt t u = .ok (stable, variableDebt) := by
  simp only [repay, bind_eq_ok, Prod.exists] at h
  obtain ⟨_, _, stable, variableDebt, hdebts, _⟩ := h
  exact ⟨stable, variableDebt, hdebts⟩

/-- A repayment takes the debt, or the amount when that is less, out of the debt and from the
underlying of the caller. -/
theorem repay_effect (ht : IsBlockTimestamp t)
    (h : pool.repay t msgSender asset amount rateMode u = .ok (paid, pool')) :
    ∃ mode debt, InterestRateMode.fromNat rateMode = .ok mode ∧
      pool.debtOf t asset mode u = .ok debt ∧ paid = min amount debt ∧ paid ≠ 0 ∧
      (amount = uint256Max → msgSender = u) ∧
      (0 < (pool.reserves asset).currentLiquidityRate ∨
        (pool.reserves asset).lastUpdateTimestamp = t → pool.DebtFalls pool' t asset mode u paid) ∧
      moveBalance (pool.tokens asset).balances msgSender (pool.reserves asset).elTokenAddress paid =
        .ok (pool'.tokens asset).balances := by
  obtain ⟨stable, variableDebt, mode, p₁, p₂, p₃, p₄, hs, hv, hmode, hvalid, rfl, h₁, h₂, h₃, _,
    hbit, h₅⟩ := repay_eq_ok h
  simp only [validateRepay, bind_eq_ok, require_eq_ok] at hvalid
  obtain ⟨_, _, _, hpos, _, hselected, hexplicit⟩ := hvalid
  have cleared : p₄.reserves = p₃.reserves ∧ p₄.tokens = p₃.tokens := by
    obtain ⟨config, rfl⟩ := updateUserConfig_if hbit
    exact ⟨rfl, rfl⟩
  obtain ⟨token, hmove, rfl⟩ := pullUnderlying_eq_ok h₅
  have same : p₂.SameDebts (p₄.setToken asset token) asset :=
    (updateInterestRates_sameDebts h₃).trans ((SameDebts.of_reserves cleared.1 asset).trans
      ⟨rfl, rfl, rfl, rfl, ⟨rfl, rfl, rfl⟩⟩)
  have untouched : p₄.tokens = pool.tokens := by
    rw [cleared.2, updateInterestRates_tokens h₃, (burnDebt_onBooks h₂).tokens, updateState_tokens h₁]
  rw [untouched] at hmove
  have moved : moveBalance (pool.tokens asset).balances msgSender
      (pool.reserves asset).elTokenAddress (paybackAmount amount stable variableDebt mode) =
        .ok ((p₄.setToken asset token).tokens asset).balances := by
    simpa using hmove
  have explicit : amount = uint256Max → msgSender = u := fun hmax =>
    hexplicit.resolve_left (not_not.mpr hmax)
  obtain ⟨hdebt, rfl⟩ | ⟨hdebt, rfl⟩ := hselected
  · rw [paybackAmount_eq_min, if_pos rfl] at h₂ moved ⊢
    rw [burnDebt, if_pos rfl] at h₂
    have stableDebt : pool.debtOf t asset .stable u = .ok stable := debtOf_stable.trans hs
    have nonzero : min amount stable ≠ 0 := by omega
    exact ⟨.stable, stable, hmode, stableDebt, rfl, nonzero, explicit,
      fun _ => burnStableDebt_falls ht stableDebt h₁ h₂ same, moved⟩
  · rw [paybackAmount_eq_min, if_neg (by decide)] at h₂ moved ⊢
    rw [burnDebt, if_neg (by decide)] at h₂
    have debt : pool.debtOf t asset .variable u = .ok variableDebt := debtOf_variable.trans hv
    exact ⟨.variable, variableDebt, hmode, debt, rfl, by omega, explicit,
      fun accrues => burnVariableDebt_falls ht accrues debt h₁ h₂ same, moved⟩

/-- Offering more makes no difference while it pays back the same. -/
theorem repay_congr {offered : Nat} {result : Nat × LendingPool} {mode : InterestRateMode}
    {debt : Nat} (hmode : InterestRateMode.fromNat rateMode = .ok mode)
    (hdebt : pool.debtOf t asset mode u = .ok debt) (same : min offered debt = min amount debt)
    (hmore : amount ≤ offered) (explicit : offered = uint256Max → msgSender = u)
    (h : pool.repay t msgSender asset amount rateMode u = .ok result) :
    pool.repay t msgSender asset offered rateMode u = .ok result := by
  simp only [repay, validateRepay, bind_eq_ok, Prod.exists, require_eq_ok] at h ⊢
  obtain ⟨_, hpaused, stable, variableDebt, hdebts, mode', hmode', _,
    ⟨_, hactive, _, hpos, _, hselected, _⟩, h⟩ := h
  cases ok_unique hmode hmode'
  have allowed : offered ≠ uint256Max ∨ msgSender = u := by
    by_cases hmax : offered = uint256Max
    · exact .inr (explicit hmax)
    · exact .inl hmax
  refine ⟨_, hpaused, stable, variableDebt, hdebts, mode, hmode, (),
    ⟨(), hactive, (), by omega, (), hselected, allowed⟩, ?_⟩
  rw [paybackAmount_of_debtOf hdebts hdebt] at h ⊢
  rw [same]
  exact h

end LendingPool

end ElectroLend
