import ElectroLend.Pool.GenericLogic

namespace ElectroLend

open Outcome

variable {collateral debt threshold health collateral' debt' threshold' health' : Nat}

theorem calculateHealthFactorFromBalances_eq_ok
    (h : calculateHealthFactorFromBalances collateral debt threshold = .ok health) :
    (debt = 0 ∧ health = uint256Max) ∨
      (0 < debt ∧ health ≤ uint256Max ∧
        health = halfUp (halfUp (collateral * threshold) PERCENTAGE_FACTOR * WAD) debt) := by
  simp only [calculateHealthFactorFromBalances, ite_eq_ok, bind_eq_ok, percentMul_eq_ok,
    wadDiv_eq_ok, Except.ok.injEq] at h
  obtain ⟨hz, rfl⟩ | ⟨hne, _, ⟨_, rfl⟩, ⟨_, hguard⟩, rfl⟩ := h
  · exact .inl ⟨hz, rfl⟩
  · have hpos : 0 < debt := by omega
    have hle : halfUp (halfUp (collateral * threshold) PERCENTAGE_FACTOR * WAD) debt ≤
        halfUp (collateral * threshold) PERCENTAGE_FACTOR * WAD :=
      HalfUp.le_of_le_mul (Nat.le_mul_of_pos_right _ hpos) hpos
    have hmul := (Nat.le_div_iff_mul_le (show 0 < WAD by decide)).mp hguard
    exact .inr ⟨hpos, by omega, rfl⟩

/-- A position at or above the liquidation threshold: the weighted collateral makes up for the
debt, but for half a unit and a rounded share of the debt. -/
theorem health_covers
    (h : calculateHealthFactorFromBalances collateral debt threshold = .ok health)
    (hle : HEALTH_FACTOR_LIQUIDATION_THRESHOLD ≤ health) :
    2 * (10 ^ 4 * WAD * debt) ≤ 2 * WAD * (collateral * threshold) + 10 ^ 4 * WAD + 10 ^ 4 * debt := by
  obtain ⟨rfl, _⟩ | ⟨hpos, _, hhealth⟩ := calculateHealthFactorFromBalances_eq_ok h
  · omega
  · have weighted := HalfUp.mul_le (collateral * threshold) PERCENTAGE_FACTOR
    have ratio := HalfUp.mul_le (halfUp (collateral * threshold) PERCENTAGE_FACTOR * WAD) debt
    rw [← hhealth] at ratio
    have above : debt * HEALTH_FACTOR_LIQUIDATION_THRESHOLD ≤ debt * health :=
      Nat.mul_le_mul_left debt hle
    generalize halfUp (collateral * threshold) PERCENTAGE_FACTOR = share at weighted ratio
    unfold HEALTH_FACTOR_LIQUIDATION_THRESHOLD at above
    unfold PERCENTAGE_FACTOR at weighted
    unfold WAD at ratio ⊢
    omega

theorem health_mono (hw : collateral * threshold ≤ collateral' * threshold') (hd : debt' ≤ debt)
    (h : calculateHealthFactorFromBalances collateral debt threshold = .ok health)
    (h' : calculateHealthFactorFromBalances collateral' debt' threshold' = .ok health') :
    health ≤ health' := by
  obtain ⟨hz', rfl⟩ | ⟨hpos', _, rfl⟩ := calculateHealthFactorFromBalances_eq_ok h'
  · obtain ⟨_, rfl⟩ | ⟨_, hmax, _⟩ := calculateHealthFactorFromBalances_eq_ok h
    · exact Nat.le_refl _
    · exact hmax
  · obtain ⟨hz, _⟩ | ⟨hpos, _, rfl⟩ := calculateHealthFactorFromBalances_eq_ok h
    · omega
    · have share := HalfUp.mono (d := PERCENTAGE_FACTOR) hw
      have scaled := Nat.mul_le_mul_right WAD share
      exact (HalfUp.mono scaled).trans (HalfUp.anti_right hpos' hd _)

/-- More weighted collateral but for one rounded average, against less debt, is as healthy but for
what that average can cost. -/
theorem health_le_add_gap (hw : collateral * threshold ≤ collateral' * threshold' + collateral')
    (hd : debt' ≤ debt)
    (h : calculateHealthFactorFromBalances collateral debt threshold = .ok health)
    (h' : calculateHealthFactorFromBalances collateral' debt' threshold' = .ok health') :
    health ≤ health' + (collateral' / PERCENTAGE_FACTOR + 1) * WAD / debt' + 1 := by
  obtain ⟨_, rfl⟩ | ⟨hpos', _, rfl⟩ := calculateHealthFactorFromBalances_eq_ok h'
  · rw [Nat.add_assoc]
    obtain ⟨_, rfl⟩ | ⟨_, hmax, _⟩ := calculateHealthFactorFromBalances_eq_ok h
    · exact Nat.le_add_right _ _
    · exact hmax.trans (Nat.le_add_right _ _)
  · obtain ⟨hz, _⟩ | ⟨_, _, rfl⟩ := calculateHealthFactorFromBalances_eq_ok h
    · omega
    · have share : halfUp (collateral * threshold) PERCENTAGE_FACTOR ≤
          halfUp (collateral' * threshold') PERCENTAGE_FACTOR +
            (collateral' / PERCENTAGE_FACTOR + 1) :=
        (HalfUp.mono hw).trans (HalfUp.add_le _ _)
      have scaled := Nat.mul_le_mul_right WAD share
      rw [Nat.add_mul] at scaled
      exact (HalfUp.anti_right hpos' hd _).trans ((HalfUp.mono scaled).trans (HalfUp.add_le _ _))

end ElectroLend
