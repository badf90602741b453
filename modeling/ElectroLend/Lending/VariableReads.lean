import ElectroLend.Lending.Accrual

namespace ElectroLend

open Outcome HalfUp

namespace VariableDebtToken

variable {token token' : VariableDebtToken} {index amount before after : Nat} {user u : Address}
  {first : Bool}

/-- What `u` owes at an index: the scaled balance scaled up. -/
def debtAt (token : VariableDebtToken) (index : Nat) (u : Address) : Result Nat :=
  rayMul (token.scaledBalanceOf u) index

theorem debtAt_eq_ok {debt : Nat} :
    token.debtAt index u = .ok debt ↔
      token.balances u * index + halfRAY ≤ uint256Max ∧
        halfUp (token.balances u * index) RAY = debt :=
  rayMul_eq_ok

theorem debtAt_of_le (hle : token.balances u ≤ token'.balances u)
    (h : token'.debtAt index u = .ok after) :
    token.debtAt index u = .ok (halfUp (token.balances u * index) RAY) := by
  obtain ⟨hfits, _⟩ := debtAt_eq_ok.mp h
  have hmono := Nat.mul_le_mul_right index hle
  exact debtAt_eq_ok.mpr ⟨by omega, rfl⟩

theorem mint_moves_debt (h : token.mint user u amount index = .ok (first, token'))
    (hafter : token'.debtAt index u = .ok after) :
    ∃ before, token.debtAt index u = .ok before ∧
      Within (index / (2 * RAY) + 1) after (before + amount) := by
  obtain ⟨k, hd, _, hbals, _⟩ := mint_eq_ok h
  obtain ⟨⟨hindex, _⟩, hk⟩ := rayDiv_eq_ok.mp hd
  have hbal : token'.balances u = token.balances u + k := by simp [hbals]
  refine ⟨_, debtAt_of_le (by omega) hafter, ?_⟩
  obtain ⟨_, rfl⟩ := debtAt_eq_ok.mp hafter
  rw [hbal]
  exact within_add_scaled RAY_pos (Nat.pos_of_ne_zero hindex) hk _

theorem burn_moves_debt (h : token.burn u amount index = .ok token')
    (hbefore : token.debtAt index u = .ok before) :
    ∃ after, token'.debtAt index u = .ok after ∧
      Within (index / (2 * RAY) + 1) before (after + amount) := by
  obtain ⟨k, hd, _, hle, _, hbals, _⟩ := burn_eq_ok h
  obtain ⟨⟨hindex, _⟩, hk⟩ := rayDiv_eq_ok.mp hd
  have hbal : token.balances u = token'.balances u + k := by
    rw [hbals, Function.update_self]
    omega
  refine ⟨_, debtAt_of_le (by omega) hbefore, ?_⟩
  obtain ⟨_, rfl⟩ := debtAt_eq_ok.mp hbefore
  rw [hbal]
  exact within_add_scaled RAY_pos (Nat.pos_of_ne_zero hindex) hk _

theorem burn_whole_debt (hi : RAY ≤ index) (h : token.burn u amount index = .ok token')
    (whole : token.debtAt index u = .ok amount) : token'.balances u = 0 := by
  obtain ⟨k, hd, _, _, _, hbals, _⟩ := burn_eq_ok h
  have hk := rayDiv_rayMul hi whole hd
  rw [hbals, Function.update_self, hk]
  exact Nat.sub_self _

end VariableDebtToken

namespace Reserve

variable {r : Reserve} {t index debt : Nat} {u : Address}

theorem getNormalizedDebt_now (hlast : r.lastUpdateTimestamp = uint40 t) :
    r.getNormalizedDebt t = .ok r.variableBorrowIndex := if_pos hlast

/-- A variable debt is the scaled balance at the index of the view, which nobody without a debt
asks for. -/
theorem variableDebtBalanceOf_eq_ok :
    r.variableDebtBalanceOf t u = .ok debt ↔ r.variableDebtTokenAddress ≠ 0 ∧
      ((r.variableDebtToken.balances u = 0 ∧ debt = 0) ∨
        (r.variableDebtToken.balances u ≠ 0 ∧
          ∃ view, r.getNormalizedDebt t = .ok view ∧ r.variableDebtToken.debtAt view u = .ok debt)) := by
  simp only [variableDebtBalanceOf, VariableDebtToken.balanceOf, requireContract, bind_eq_ok,
    require_eq_ok, ite_eq_ok, Except.ok.injEq, exists_const, eq_comm (a := (0 : Nat))]
  rfl

theorem variableDebtBalanceOf_listed (h : r.variableDebtBalanceOf t u = .ok debt) :
    r.variableDebtTokenAddress ≠ 0 := (variableDebtBalanceOf_eq_ok.mp h).1

theorem variableDebtBalanceOf_at (listed : r.variableDebtTokenAddress ≠ 0)
    (hview : r.variableDebtToken.scaledBalanceOf u ≠ 0 → r.getNormalizedDebt t = .ok index) :
    r.variableDebtBalanceOf t u = r.variableDebtToken.debtAt index u := by
  simp only [variableDebtBalanceOf, VariableDebtToken.balanceOf, requireContract,
    require_of listed, ok_bind]
  by_cases hz : r.variableDebtToken.scaledBalanceOf u = 0
  · rw [VariableDebtToken.debtAt, hz, rayMul_zero_left]
    exact if_pos hz
  · rw [hview hz, ok_bind]
    exact if_neg hz

theorem variableDebtBalanceOf_next (ht : IsBlockTimestamp t)
    (accrues : 0 < r.currentLiquidityRate ∨ r.lastUpdateTimestamp = t)
    (listed : r.variableDebtTokenAddress ≠ 0)
    (held : r.variableDebtToken.scaledBalanceOf u ≤ r.variableDebtToken.scaledTotalSupply)
    (hnext : r.nextVariableBorrowIndex t = .ok index) :
    r.variableDebtBalanceOf t u = r.variableDebtToken.debtAt index u := by
  refine variableDebtBalanceOf_at listed fun hne => ?_
  refine getNormalizedDebt_of_next ht accrues ?_ hnext
  intro hz
  exact hne (Nat.eq_zero_of_le_zero (held.trans_eq hz))

theorem scaled_le_variableDebt (hle : ∀ view, r.getNormalizedDebt t = .ok view → index ≤ view)
    (h : r.variableDebtBalanceOf t u = .ok debt) :
    halfUp (r.variableDebtToken.balances u * index) RAY ≤ debt := by
  obtain ⟨_, ⟨hz, rfl⟩ | ⟨_, view, hview, hm⟩⟩ := variableDebtBalanceOf_eq_ok.mp h
  · rw [hz, Nat.zero_mul, HalfUp.zero_left]
  · obtain ⟨_, rfl⟩ := VariableDebtToken.debtAt_eq_ok.mp hm
    exact HalfUp.mono (Nat.mul_le_mul_left _ (hle view hview))

theorem variableDebt_of_view (hview : ∀ view, r.getNormalizedDebt t = .ok view → view = index)
    (h : r.variableDebtBalanceOf t u = .ok debt) :
    debt = halfUp (r.variableDebtToken.balances u * index) RAY := by
  obtain ⟨_, ⟨hz, rfl⟩ | ⟨_, view, hv, hm⟩⟩ := variableDebtBalanceOf_eq_ok.mp h
  · rw [hz, Nat.zero_mul, HalfUp.zero_left]
  · cases hview view hv
    exact (VariableDebtToken.debtAt_eq_ok.mp hm).2.symm

theorem variableDebt_now (hlast : r.lastUpdateTimestamp = uint40 t)
    (h : r.variableDebtBalanceOf t u = .ok debt) :
    debt = halfUp (r.variableDebtToken.balances u * r.variableBorrowIndex) RAY :=
  variableDebt_of_view (fun _ hv => ok_unique hv (getNormalizedDebt_now hlast)) h

/-- The view never reads less than what the scaled balance is worth after the accrual. -/
theorem scaled_le_units (ht : IsBlockTimestamp t) (hi : RAY ≤ r.variableBorrowIndex)
    (hnext : r.nextVariableBorrowIndex t = .ok index)
    (h : r.variableDebtBalanceOf t u = .ok debt) :
    r.variableDebtToken.balances u ≤ halfUp (debt * RAY) index := by
  obtain ⟨_, ⟨hz, _⟩ | ⟨_, view, hview, hm⟩⟩ := variableDebtBalanceOf_eq_ok.mp h
  · rw [hz]
    exact Nat.zero_le _
  · obtain ⟨_, rfl⟩ := VariableDebtToken.debtAt_eq_ok.mp hm
    exact HalfUp.le_round_trip_of_le halfRAY RAY_eq_two_mul (by decide)
      (hi.trans (le_nextVariableBorrowIndex hnext)) (next_le_getNormalizedDebt ht hview hnext) _

/-- A debt reads as 0 exactly when nothing is stored of it. -/
theorem variableDebtBalanceOf_eq_zero_iff (hi : RAY ≤ r.variableBorrowIndex)
    (h : r.variableDebtBalanceOf t u = .ok debt) :
    debt = 0 ↔ r.variableDebtToken.balances u = 0 := by
  obtain ⟨_, ⟨hz, rfl⟩ | ⟨hne, view, hview, hm⟩⟩ := variableDebtBalanceOf_eq_ok.mp h
  · exact ⟨fun _ => hz, fun _ => rfl⟩
  · have hle : r.variableDebtToken.balances u ≤ debt :=
      le_rayMul (hi.trans (le_getNormalizedDebt hview)) hm
    omega

end Reserve

end ElectroLend
