import ElectroLend.Lending.VariableReads
import ElectroLend.Pool.Scripts

namespace ElectroLend

open Outcome HalfUp

namespace VariableDebtToken

variable {token token' : VariableDebtToken} {index amount before after : Nat} {user u v : Address}
  {first : Bool}

theorem burn_after_mint (h : token.mint user u amount index = .ok (first, token')) :
    token'.burn u amount index =
      .ok { token with borrowAllowances := token'.borrowAllowances } := by
  simp only [mint, bind_eq_ok, require_eq_ok, pure_eq_ok, Prod.mk.injEq] at h
  obtain ⟨allowances, _, k, hd, _, hne, base, hbase, _, rfl⟩ := h
  simp only [IncentivizedERC20.mint, bind_eq_ok, require_eq_ok, pure_eq_ok, SafeMath.add_eq_ok]
    at hbase
  obtain ⟨_, hu, _, ⟨_, rfl⟩, _, ⟨_, rfl⟩, rfl⟩ := hbase
  simp [burn, IncentivizedERC20.burn, SafeMath.sub, hd, require, hne, hu, pure,
    Except.pure]

theorem mint_for_oneself (h : token.mint u u amount index = .ok (first, token')) :
    token'.borrowAllowances = token.borrowAllowances := by
  simp only [mint, spendBorrowAllowance, bind_eq_ok, pure_eq_ok, Prod.mk.injEq] at h
  obtain ⟨allowances, hspent, _, _, _, _, _, _, _, rfl⟩ := h
  simpa [eq_comm] using hspent

end VariableDebtToken

open VariableDebtToken

/-- Mint and burn of the variable debt token move the debt by the amount asked, up to half an
index, and leave everybody else's. -/
theorem variableDebt_moves_by_amount {index : Nat} (hi : RAY ≤ index) (token : VariableDebtToken)
    (amount : Nat) (u : Address) :
    (∀ user first token', token.mint user u amount index = .ok (first, token') →
      (∀ after, token'.debtAt index u = .ok after →
        ∃ before, token.debtAt index u = .ok before ∧
          Within (index / (2 * RAY) + 1) after (before + amount)) ∧
      (∀ v, v ≠ u → token'.scaledBalanceOf v = token.scaledBalanceOf v) ∧
      (first = true ↔ token.scaledBalanceOf u = 0) ∧
      ∃ token'', token'.burn u amount index = .ok token'' ∧ token''.balances = token.balances ∧
        token''.totalSupply = token.totalSupply ∧ (user = u → token'' = token)) ∧
    ∀ token', token.burn u amount index = .ok token' →
      (∀ before, token.debtAt index u = .ok before →
        ∃ after, token'.debtAt index u = .ok after ∧
          Within (index / (2 * RAY) + 1) before (after + amount)) ∧
      (∀ v, v ≠ u → token'.scaledBalanceOf v = token.scaledBalanceOf v) ∧
      (token.debtAt index u = .ok amount → token'.scaledBalanceOf u = 0) := by
  refine ⟨?_, ?_⟩
  · intro user first token' hmint
    obtain ⟨k, _, _, hbals, _, hfirst⟩ := mint_eq_ok hmint
    refine ⟨fun after hafter => mint_moves_debt hmint hafter, ?_, ?_, ?_⟩
    · intro v hv
      simp [scaledBalanceOf, hbals, hv]
    · simp [hfirst, scaledBalanceOf]
    · refine ⟨_, burn_after_mint hmint, rfl, rfl, ?_⟩
      intro huser
      subst huser
      rw [mint_for_oneself hmint]
  · intro token' hburn
    obtain ⟨k, _, _, _, _, hbals, _⟩ := burn_eq_ok hburn
    refine ⟨fun before hbefore => burn_moves_debt hburn hbefore, ?_, ?_⟩
    · intro v hv
      simp [scaledBalanceOf, hbals, hv]
    · intro whole
      exact burn_whole_debt hi hburn whole

/-- Alice borrows ten units of her own credit at an index of a ray and a half. -/
theorem alice_moves_ten :
    ∃ first token, VariableDebtToken.empty.mint Market.alice Market.alice 10 (15 * 10 ^ 26) =
        .ok (first, token) ∧ first = true ∧
      ∃ after, token.debtAt (15 * 10 ^ 26) Market.alice = .ok after ∧ Within 1 after 10 := by
  have mints : succeedsWith
      (VariableDebtToken.empty.mint Market.alice Market.alice 10 (15 * 10 ^ 26))
      (fun result => (result.2.debtAt (15 * 10 ^ 26) Market.alice).isOk) = true := by
    decide +kernel
  obtain ⟨⟨first, token⟩, hmint, hreads⟩ := succeedsWith_iff.mp mints
  obtain ⟨after, hafter⟩ := exists_of_isOk hreads
  obtain ⟨moves, _, hfirst, _⟩ :=
    (variableDebt_moves_by_amount (show RAY ≤ 15 * 10 ^ 26 by decide) .empty 10 Market.alice).1
      _ _ _ hmint
  obtain ⟨before, hbefore, hwithin⟩ := moves after hafter
  have hzero : VariableDebtToken.empty.debtAt (15 * 10 ^ 26) Market.alice = .ok 0 := rfl
  cases ok_unique hbefore hzero
  rw [Nat.zero_add] at hwithin
  exact ⟨first, token, hmint, hfirst.mpr rfl, after, hafter, hwithin⟩

/-- Bob borrows five units on an allowance of alice: her repayment does not give it back. -/
theorem allowance_stays_spent :
    ∃ token first token' token'',
      VariableDebtToken.mint token Market.bob Market.alice 5 RAY = .ok (first, token') ∧
      token'.burn Market.alice 5 RAY = .ok token'' ∧ token'' ≠ token := by
  let token : VariableDebtToken := { VariableDebtToken.empty with
    borrowAllowances := fun _ _ => 5 }
  have mints : succeedsWith (token.mint Market.bob Market.alice 5 RAY)
      (fun result => result.2.borrowAllowances Market.alice Market.bob == 0) = true := by
    decide +kernel
  obtain ⟨⟨first, token'⟩, hmint, hspent⟩ := succeedsWith_iff.mp mints
  refine ⟨token, first, token', _, hmint, burn_after_mint hmint, ?_⟩
  intro restored
  have hleft : token'.borrowAllowances Market.alice Market.bob = 0 := eq_of_beq hspent
  have hback := congrArg (fun t => t.borrowAllowances Market.alice Market.bob) restored
  change token'.borrowAllowances Market.alice Market.bob = 5 at hback
  omega

/-- A second mint of 10^50 units succeeds, after which the debt at the index overflows. -/
theorem minted_debt_overflows :
    ∃ first token second token',
      VariableDebtToken.empty.mint Market.alice Market.alice (10 ^ 50) RAY = .ok (first, token) ∧
      token.debtAt RAY Market.alice = .ok (10 ^ 50) ∧
      token.mint Market.alice Market.alice (10 ^ 50) RAY = .ok (second, token') ∧
      ∀ after, token'.debtAt RAY Market.alice ≠ .ok after := by
  have mints : succeedsWith
      (VariableDebtToken.empty.mint Market.alice Market.alice (10 ^ 50) RAY) (fun result =>
        decide (result.2.debtAt RAY Market.alice = .ok (10 ^ 50)) &&
        succeedsWith (result.2.mint Market.alice Market.alice (10 ^ 50) RAY) (fun next =>
          !(next.2.debtAt RAY Market.alice).isOk)) = true := by decide +kernel
  obtain ⟨⟨first, token⟩, hmint, hthen⟩ := succeedsWith_iff.mp mints
  obtain ⟨hbefore, hagain⟩ := Bool.and_eq_true_iff.mp hthen
  obtain ⟨⟨second, token'⟩, hmint', hunread⟩ := succeedsWith_iff.mp hagain
  refine ⟨first, token, second, token', hmint, of_decide_eq_true hbefore, hmint', ?_⟩
  intro after hafter
  simp [hafter, Except.isOk, Except.toBool] at hunread

/-- A delegate's loan repaid does not leave the token as it was, and a mint need not raise a debt
that can be read. -/
theorem variableDebt_not_restored :
    (∃ token first token' token'',
      VariableDebtToken.mint token Market.bob Market.alice 5 RAY = .ok (first, token') ∧
      token'.burn Market.alice 5 RAY = .ok token'' ∧ token'' ≠ token) ∧
    ∃ first token second token',
      VariableDebtToken.empty.mint Market.alice Market.alice (10 ^ 50) RAY = .ok (first, token) ∧
      token.debtAt RAY Market.alice = .ok (10 ^ 50) ∧
      token.mint Market.alice Market.alice (10 ^ 50) RAY = .ok (second, token') ∧
      ∀ after, token'.debtAt RAY Market.alice ≠ .ok after :=
  ⟨allowance_stays_spent, minted_debt_overflows⟩

end ElectroLend
