import ElectroLend.Pool.DebtTokens
import ElectroLend.Pool.Scripts
import ElectroLend.Pool.Visits
import ElectroLend.Properties.AccountDebt
import ElectroLend.Properties.BorrowingBits

namespace ElectroLend

open Outcome LendingPool

theorem Visits.marked {rules : Rules} {t : Nat} {pool pool' : LendingPool}
    (ht : IsBlockTimestamp t) (h : Visits rules t pool pool') (inv : pool.DebtsMarked) :
    pool'.DebtsMarked := by
  induction h with
  | between steps => exact steps.marked ht inv
  | inside before _ _ sending _ ih =>
    exact ih ((before.marked ht inv).frame (sendFlashLoan_debtFrame sending))

theorem Visited.marked {rules : Rules} {t : Nat} {pool : LendingPool}
    (h : Visited rules t pool) : pool.DebtsMarked := by
  obtain ⟨_, _, reachable, _, ht, visits⟩ := h
  exact visits.marked ht reachable.marked

theorem Visited.timestamp {rules : Rules} {t : Nat} {pool : LendingPool}
    (h : Visited rules t pool) : IsBlockTimestamp t := by
  obtain ⟨_, _, _, _, ht, _⟩ := h
  exact ht

def InterestRateMode.other : InterestRateMode → InterestRateMode
  | .stable => .variable
  | _ => .stable

namespace Reserve

variable {r : Reserve} {t index debt : Nat} {u : Address}

/-- The principal or the scaled balance. -/
def debtUnits (r : Reserve) (mode : InterestRateMode) (u : Address) : Nat :=
  if mode = .stable then r.stableDebtToken.principalBalanceOf u
  else r.variableDebtToken.scaledBalanceOf u

@[simp] theorem debtUnits_stable : r.debtUnits .stable u = r.stableDebtToken.balances u := rfl

@[simp] theorem debtUnits_variable : r.debtUnits .variable u = r.variableDebtToken.balances u := rfl

end Reserve

namespace LendingPool

variable {pool pool' : LendingPool} {t amount paid : Nat} {asset u v a : Address}

theorem DebtsMarked.index_ge (inv : pool.DebtsMarked)
    (listed : (pool.reserves asset).variableDebtTokenAddress ≠ 0) :
    RAY ≤ (pool.reserves asset).variableBorrowIndex := by
  obtain hblank | ⟨hl, _⟩ := inv.listing.known asset
  · exact absurd hblank.variableDebtToken listed
  · exact hl.index

theorem BurnsDebt.debtUnits_other {stable variableDebt : Nat}
    (h : BurnsDebt t asset u stable variableDebt pool pool') (hother : a ≠ asset ∨ v ≠ u)
    (mode : InterestRateMode) :
    (pool'.reserves a).debtUnits mode v = (pool.reserves a).debtUnits mode v := by
  unfold Reserve.debtUnits
  by_cases ha : a = asset
  · subst ha
    obtain ⟨_, _, burns⟩ := h.burns
    obtain ⟨same, kept⟩ := burns.others (hother.resolve_left (fun hne => hne rfl))
    simp only [StableDebtToken.principalBalanceOf, VariableDebtToken.scaledBalanceOf,
      same.principal, kept]
  · obtain ⟨hs, hv⟩ := h.others a ha
    rw [hs, hv]

end LendingPool

/-- A repayment of at least the debt of a mode charges the payer that debt and closes it, leaves
every other debt, and clears the borrowing bit exactly when nothing is owed in the other mode. -/
theorem full_repayment_closes {rules : Rules} {t : Nat} {pool pool' : LendingPool}
    {asset msgSender u : Address} {amount rateMode debt paid : Nat} {mode : InterestRateMode}
    (visited : Visited rules t pool) (hmode : InterestRateMode.fromNat rateMode = .ok mode)
    (hdebt : pool.debtOf t asset mode u = .ok debt) (hall : debt ≤ amount)
    (h : pool.repay t msgSender asset amount rateMode u = .ok (paid, pool')) :
    paid = debt ∧
      moveBalance (pool.tokens asset).balances msgSender (pool.reserves asset).elTokenAddress debt =
        .ok (pool'.tokens asset).balances ∧
      (pool'.reserves asset).debtUnits mode u = 0 ∧
      (pool'.reserves asset).debtUnits mode.other u = (pool.reserves asset).debtUnits mode.other u ∧
      (∀ a v, a ≠ asset ∨ v ≠ u → ∀ mode',
        (pool'.reserves a).debtUnits mode' v = (pool.reserves a).debtUnits mode' v) ∧
      ((pool'.usersConfig u).borrowingBit (pool.reserves asset).id = false ↔
        pool.debtOf t asset mode.other u = .ok 0) := by
  have ht := visited.timestamp
  have inv := visited.marked
  obtain ⟨mode', hmode', stable, variableDebt, hs, hv, hburn, hbits⟩ := repay_repays h
  cases ok_unique hmode hmode'
  obtain ⟨mode', debt', hmode', hdebt', hpaid, _, _, _, hmove⟩ := repay_effect ht h
  cases ok_unique hmode hmode'
  cases ok_unique hdebt hdebt'
  rw [Nat.min_eq_right hall] at hpaid
  subst hpaid
  have hi := inv.index_ge (Reserve.variableDebtBalanceOf_listed hv)
  have hbit := hbits u (pool.reserves asset).id
  have marked := inv.debts asset u
  obtain ⟨rfl, _, burns⟩ | ⟨rfl, _, burns⟩ := hburn
  · cases ok_unique (debtOf_stable.symm.trans hdebt) hs
    obtain ⟨_, _, tokens⟩ := burns.burns
    obtain ⟨_, closed⟩ := tokens.stable_left (Reserve.stableDebtBalanceOf_view hs)
    obtain ⟨_, left⟩ := tokens.variable_left
    have other : pool.debtOf t asset .variable u = .ok variableDebt := debtOf_variable.trans hv
    have zero := Reserve.variableDebtBalanceOf_eq_zero_iff hi hv
    refine ⟨rfl, hmove, closed.mpr rfl, ?_, fun a v hne mode' => burns.debtUnits_other hne mode', ?_⟩
    · rw [Nat.zero_mul, HalfUp.zero_left] at left
      exact left
    · rw [InterestRateMode.other, other, Except.ok.injEq, hbit]
      by_cases hz : variableDebt = 0
      · simp [hz]
      · have owes : (pool.reserves asset).Owes u := .inr (fun he => hz (zero.mpr he))
        simp [hz, (marked owes).2]
  · cases ok_unique (debtOf_variable.symm.trans hdebt) hv
    obtain ⟨index, hnext, tokens⟩ := burns.burns
    obtain ⟨_, left⟩ := tokens.variable_left
    obtain ⟨_, kept⟩ := tokens.stableDebtToken.resolve_right (fun hne => hne.1 rfl)
    have whole := Reserve.scaled_le_units ht hi hnext hv
    have other_mode : InterestRateMode.variable.other = .stable := rfl
    have other : pool.debtOf t asset .stable u = .ok stable := debtOf_stable.trans hs
    refine ⟨rfl, hmove, ?_, ?_, fun a v hne mode' => burns.debtUnits_other hne mode', ?_⟩
    · rw [Reserve.debtUnits_variable]
      omega
    · rw [other_mode, Reserve.debtUnits_stable, Reserve.debtUnits_stable, kept]
    · rw [other_mode, other, Except.ok.injEq, hbit]
      by_cases hz : stable = 0
      · simp [hz]
      · have owes : (pool.reserves asset).Owes u :=
          .inl (fun he => hz ((Reserve.stableDebtBalanceOf_eq_zero_iff hs).mpr he))
        simp [hz, (marked owes).2]

/-- A month later bob offers twice what he borrowed, and pays the debt. -/
theorem bob_repays_in_full :
    ∃ debt paid pool',
      borrowedMarket.debtOf 2592003 Market.weth .variable Market.bob = .ok debt ∧
      borrowedMarket.repay 2592003 Market.bob Market.weth (10 ^ 20) 2 Market.bob =
        .ok (paid, pool') ∧
      paid = debt ∧
      (pool'.reserves Market.weth).variableDebtToken.scaledBalanceOf Market.bob = 0 ∧
      (pool'.usersConfig Market.bob).borrowingBit (borrowedMarket.reserves Market.weth).id =
        false := by
  have reach : Reachable .any 3 borrowedMarket :=
    Market.endState_reachable (by decide +kernel) (by decide +kernel)
  have ht : IsBlockTimestamp 2592003 := by unfold IsBlockTimestamp; omega
  have visited : Visited .any 2592003 borrowedMarket :=
    ⟨3, borrowedMarket, reach, by omega, ht, .between (.refl borrowedMarket)⟩
  have success : succeedsWith (do
      let debt ← borrowedMarket.debtOf 2592003 Market.weth .variable Market.bob
      let run ← borrowedMarket.repay 2592003 Market.bob Market.weth (10 ^ 20) 2 Market.bob
      pure (debt, run))
      (fun run => decide (run.1 ≤ 10 ^ 20 ∧
        borrowedMarket.debtOf 2592003 Market.weth .stable Market.bob = .ok 0)) = true := by
    decide +kernel
  obtain ⟨_, hrun, hafter⟩ := succeedsWith_iff.mp success
  simp only [bind_eq_ok, Prod.exists, pure_eq_ok, decide_eq_true_eq] at hrun hafter
  obtain ⟨debt, hdebt, paid, pool', hrepay, rfl⟩ := hrun
  obtain ⟨hall, hstable⟩ := hafter
  obtain ⟨hpaid, _, closed, _, _, cleared⟩ :=
    full_repayment_closes visited rfl hdebt hall hrepay
  exact ⟨debt, paid, pool', hdebt, hrepay, hpaid, closed, cleared.mpr hstable⟩

end ElectroLend
