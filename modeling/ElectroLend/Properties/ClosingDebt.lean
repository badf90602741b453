import ElectroLend.Pool.DebtTokens
import ElectroLend.Properties.DebtsMarked

namespace ElectroLend

open Outcome

namespace LendingPool

variable {pool pool' : LendingPool} {t amount : Nat} {asset u v : Address}

theorem DebtsMarked.clear (inv : pool.DebtsMarked)
    (listed : (pool.reserves asset).variableDebtTokenAddress ≠ 0)
    (clear : ¬(pool.reserves asset).Owes u)
    (h : pool.setBorrowing u (pool.reserves asset).id false = .ok pool') : pool'.DebtsMarked := by
  obtain ⟨config, hc, rfl⟩ := setBorrowing_eq_ok h
  obtain ⟨_, hbits, _⟩ := UserConfigurationMap.setBorrowing_eq_ok hc
  refine ⟨inv.listing.frame ⟨rfl, rfl, rfl, fun _ => .refl _⟩, ?_⟩
  intro a w ho
  change (pool.reserves a).Owes w at ho
  obtain ⟨hlisted, hbit⟩ := inv.debts a w ho
  refine ⟨hlisted, ?_⟩
  change ((Function.update pool.usersConfig u config) w).borrowingBit (pool.reserves a).id = true
  by_cases hw : w = u
  · subst hw
    have hne : (pool.reserves a).id ≠ (pool.reserves asset).id := by
      intro hid
      cases inv.listing.asset_eq hlisted listed hid
      exact clear ho
    rw [Function.update_self, hbits, if_neg hne]
    exact hbit
  · rw [Function.update_of_ne hw]
    exact hbit

/-- A repayment of both debts that the views report leaves nothing: one of them is nothing, and the
accrual before the burn makes the other no larger than its view. -/
theorem Repays.clears {mode : InterestRateMode} {paid stable variableDebt : Nat}
    (ht : IsBlockTimestamp t) (hi : RAY ≤ (pool.reserves asset).variableBorrowIndex)
    (h : Repays t asset u amount paid mode pool pool')
    (hs : (pool.reserves asset).stableDebtBalanceOf t u = .ok stable)
    (hv : (pool.reserves asset).variableDebtBalanceOf t u = .ok variableDebt)
    (covered : stable + variableDebt ≤ paid) : ¬(pool'.reserves asset).Owes u := by
  obtain ⟨stable', variableDebt', hs', hv', hburn, _⟩ := h.debts
  cases ok_unique hs hs'
  cases ok_unique hv hv'
  have view := Reserve.stableDebtBalanceOf_view hs
  obtain ⟨_, hpaid, burns⟩ | ⟨_, hpaid, burns⟩ := hburn
  · obtain ⟨index, _, tokens⟩ := burns.burns
    have none := (Reserve.variableDebtBalanceOf_eq_zero_iff hi hv).mp (by omega)
    refine (tokens.emptied_iff view).mpr ⟨by omega, ?_⟩
    rw [none]
    exact Nat.zero_le _
  · obtain ⟨index, hnext, tokens⟩ := burns.burns
    have all : paid = variableDebt := by omega
    have whole := Reserve.scaled_le_units ht hi hnext hv
    rw [← all] at whole
    exact (tokens.emptied_iff view).mpr ⟨by omega, whole⟩

theorem repay_marked {msgSender onBehalfOf : Address} {mode paid : Nat} (ht : IsBlockTimestamp t)
    (inv : pool.DebtsMarked)
    (h : pool.repay t msgSender asset amount mode onBehalfOf = .ok (paid, pool')) :
    pool'.DebtsMarked := by
  obtain ⟨_, _, repays⟩ := repay_repays h
  obtain ⟨_, _, rateMode, p₁, p₂, p₃, p₄, hs, hv, _, _, _, h₁, h₂, h₃, hle, hbit, h₅⟩ :=
    repay_eq_ok h
  refine DebtsMarked.frame ?_ (pullUnderlying_debtFrame h₅)
  have rates := updateInterestRates_debtFrame h₃
  have inv₃ := ((inv.frame (updateState_debtFrame h₁)).frame (burnDebt_debtFrame h₂)).frame rates
  obtain ⟨hz, hset⟩ | ⟨_, rfl⟩ := hbit
  · have listed : (p₃.reserves asset).variableDebtTokenAddress ≠ 0 := by
      have frame := (burnDebt_debtFrame h₂).trans rates
      rw [(frame.listing.reserve asset).variableDebtToken]
      exact updateState_listed h₁
    have hi : RAY ≤ (pool.reserves asset).variableBorrowIndex := by
      obtain hblank | ⟨hl, _⟩ := inv.listing.known asset
      · have frame := (updateState_debtFrame h₁).listing.reserve asset
        exact absurd (frame.variableDebtToken.trans hblank.variableDebtToken)
          (updateState_listed h₁)
      · exact hl.index
    have clears := repays.clears ht hi hs hv (by omega)
    have same := (updateUserConfig_sameDebtTokens (.inl ⟨hz, hset⟩)).trans
      (pullUnderlying_sameDebtTokens h₅)
    refine inv₃.clear listed (fun ho => clears ?_) hset
    unfold Reserve.Owes at ho ⊢
    rw [same.stableDebtToken, same.variableDebtToken]
    exact ho
  · exact inv₃

end LendingPool

end ElectroLend
