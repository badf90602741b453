import ElectroLend.Lending.Accrual
import ElectroLend.Math.CompoundInterest

namespace ElectroLend

open Outcome

/-- Whole units a second miss less than one unit a second of the linear interest. -/
theorem linear_le_compoundFactor (rate seconds : Nat) :
    rate * seconds / SECONDS_PER_YEAR + RAY ≤ compoundFactor rate seconds + seconds := by
  have year : 0 < SECONDS_PER_YEAR := by decide
  have whole := Nat.lt_mul_div_succ rate year
  have power : RAY + rate / SECONDS_PER_YEAR * seconds ≤ compoundFactor rate seconds :=
    TruncatedBinomial.linear_le_power
  have accrued : rate * seconds / SECONDS_PER_YEAR ≤ rate / SECONDS_PER_YEAR * seconds + seconds := by
    refine Nat.div_le_of_le_mul ?_
    calc rate * seconds ≤ SECONDS_PER_YEAR * (rate / SECONDS_PER_YEAR + 1) * seconds :=
          Nat.mul_le_mul_right seconds (Nat.le_of_lt whole)
      _ = SECONDS_PER_YEAR * (rate / SECONDS_PER_YEAR * seconds + seconds) := by ring
  omega

/-- Compounding never reverts for a stored rate and block timestamps. The factor is at least one ray,
grows with the rate and with the time, and misses the linear factor by one unit a second at most. -/
theorem compounded_dominates_linear {rate last now : Nat} (hrate : rate ≤ uint128Max)
    (hnow : IsBlockTimestamp now) (hle : last ≤ now) :
    ∃ c linear, calculateCompoundedInterest rate last now = .ok c ∧
      calculateLinearInterest rate last now = .ok linear ∧ RAY ≤ c ∧ linear ≤ c + (now - last) ∧
      (∀ rate', rate ≤ rate' → rate' ≤ uint128Max →
        ∃ c', calculateCompoundedInterest rate' last now = .ok c' ∧ c ≤ c') ∧
      ∀ now', now ≤ now' → IsBlockTimestamp now' →
        ∃ c', calculateCompoundedInterest rate last now' = .ok c' ∧ c ≤ c' := by
  have seconds : ∀ {t}, IsBlockTimestamp t → t - last < 2 ^ 40 :=
    fun ht => (Nat.sub_le _ _).trans_lt ht
  refine ⟨_, _, calculateCompoundedInterest_total hrate hle (seconds hnow),
    calculateLinearInterest_total hrate hle (seconds hnow), TruncatedBinomial.unit_le_power,
    linear_le_compoundFactor rate _, ?_, ?_⟩
  · intro rate' hrate' hmax
    exact ⟨_, calculateCompoundedInterest_total hmax hle (seconds hnow),
      compoundFactor_mono hrate' (Nat.le_refl _)⟩
  · intro now' hnow' ht
    exact ⟨_, calculateCompoundedInterest_total hrate (hle.trans hnow') (seconds ht),
      compoundFactor_mono (Nat.le_refl _) (Nat.sub_le_sub_right hnow' last)⟩

/-- The largest rate over all of time. -/
theorem largest_rate_compounds : ∃ c linear,
    calculateCompoundedInterest uint128Max 0 (2 ^ 40 - 1) = .ok c ∧
      calculateLinearInterest uint128Max 0 (2 ^ 40 - 1) = .ok linear ∧ linear ≤ c + (2 ^ 40 - 1) := by
  have now : IsBlockTimestamp (2 ^ 40 - 1) := by decide
  obtain ⟨c, linear, hc, hlinear, _, hle, _⟩ :=
    compounded_dominates_linear (Nat.le_refl uint128Max) now (Nat.zero_le _)
  exact ⟨c, linear, hc, hlinear, hle⟩

/-- An extra accrual between two spans of time loses the lenders no more than the rounding of the
powers: the factors of the two spans multiply to the factor of the whole, or to more. -/
theorem extra_accrual_loses_rounding {rate t₁ t₂ : Nat} (hrate : rate ≤ uint128Max)
    (hseconds : t₁ + t₂ < 2 ^ 40) (last₁ last₂ last : Nat) :
    ∃ c₁ c₂ whole, calculateCompoundedInterest rate last₁ (last₁ + t₁) = .ok c₁ ∧
      calculateCompoundedInterest rate last₂ (last₂ + t₂) = .ok c₂ ∧
      calculateCompoundedInterest rate last (last + (t₁ + t₂)) = .ok whole ∧
      ∀ product, rayMul c₁ c₂ = .ok product → whole ≤ product + (t₁ * t₂ * (t₁ + t₂) + 1) := by
  have reaches : ∀ {start t}, t < 2 ^ 40 →
      calculateCompoundedInterest rate start (start + t) = .ok (compoundFactor rate t) := by
    intro start t ht
    have elapsed := Nat.add_sub_cancel_left (n := start) (m := t)
    rw [calculateCompoundedInterest_total hrate (Nat.le_add_right _ _) (elapsed.symm ▸ ht), elapsed]
  refine ⟨_, _, _, reaches (by omega), reaches (by omega), reaches hseconds, fun product hm => ?_⟩
  obtain ⟨_, rfl⟩ := rayMul_eq_ok.mp hm
  have loss := TruncatedBinomial.power_add_le RAY_pos (rate / SECONDS_PER_YEAR) t₁ t₂
  unfold compoundFactor
  omega

/-- A rate of 10%, accrued after a day or only after a week. -/
theorem week_with_a_poke : ∃ c₁ c₂ whole product,
    calculateCompoundedInterest (10 ^ 26) 0 86400 = .ok c₁ ∧
      calculateCompoundedInterest (10 ^ 26) 86400 604800 = .ok c₂ ∧
      calculateCompoundedInterest (10 ^ 26) 0 604800 = .ok whole ∧ rayMul c₁ c₂ = .ok product ∧
      whole ≤ product + (86400 * 518400 * 604800 + 1) := by
  obtain ⟨c₁, c₂, whole, h₁, h₂, h, loss⟩ :=
    extra_accrual_loses_rounding (show 10 ^ 26 ≤ uint128Max by decide)
      (show 86400 + 518400 < 2 ^ 40 by decide) 0 86400 0
  obtain ⟨product, hproduct⟩ := exists_of_isOk (x := do
    let first ← calculateCompoundedInterest (10 ^ 26) 0 86400
    let second ← calculateCompoundedInterest (10 ^ 26) 86400 604800
    rayMul first second) (by decide +kernel)
  simp only [bind_eq_ok] at hproduct
  obtain ⟨_, hfirst, _, hsecond, hm⟩ := hproduct
  cases ok_unique h₁ hfirst
  cases ok_unique h₂ hsecond
  exact ⟨c₁, c₂, whole, product, h₁, h₂, h, hm, loss product hm⟩

end ElectroLend
