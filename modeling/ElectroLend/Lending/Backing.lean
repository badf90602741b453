import ElectroLend.Lending.InterestCover

namespace ElectroLend

open Outcome

namespace Reserve

def claims (r : Reserve) (t : Nat) : Result Nat := do
  let index ← r.getNormalizedIncome t
  rayMul r.elToken.scaledTotalSupply index

def assets (r : Reserve) (t liquidity : Nat) : Result Nat := do
  let index ← r.getNormalizedDebt t
  let debt ← rayMul r.variableDebtToken.scaledTotalSupply index
  pure (liquidity + debt)

/-- Both indexes at one ray, and no stable debt. -/
structure AtPar (r : Reserve) : Prop where
  liquidityIndex : r.liquidityIndex = RAY
  variableBorrowIndex : r.variableBorrowIndex = RAY
  stable : r.stableDebtToken.totalSupply = 0

variable {r : Reserve} {t income debtIndex : Nat}

/-- Both views grow from par over the same time, one linearly and one at least linearly. -/
theorem AtPar.views (par : r.AtPar) (ht : IsBlockTimestamp t)
    (hi : r.getNormalizedIncome t = .ok income) (hd : r.getNormalizedDebt t = .ok debtIndex) :
    ∃ elapsed, elapsed < 2 ^ 40 ∧
      income = RAY + r.currentLiquidityRate * elapsed / SECONDS_PER_YEAR ∧
      RAY + r.currentVariableBorrowRate / SECONDS_PER_YEAR * elapsed ≤ debtIndex := by
  simp only [getNormalizedIncome, par.liquidityIndex, ite_eq_ok, bind_eq_ok,
    Except.ok.injEq] at hi
  simp only [getNormalizedDebt, par.variableBorrowIndex, ite_eq_ok, bind_eq_ok,
    Except.ok.injEq] at hd
  obtain ⟨_, rfl⟩ | ⟨hlast, linear, hl, hm⟩ := hi
  · obtain ⟨_, rfl⟩ | ⟨hne, _⟩ := hd
    · exact ⟨0, by decide, by simp, by simp⟩
    · contradiction
  · obtain ⟨hsame, _⟩ | ⟨_, compounded, hc, hm'⟩ := hd
    · contradiction
    · obtain ⟨_, rfl⟩ := calculateLinearInterest_eq_ok.mp hl
      obtain ⟨_, grown⟩ := calculateCompoundedInterest_ge_linear hc
      rw [rayMul_by_ray hm, rayMul_by_ray hm']
      refine ⟨t - r.lastUpdateTimestamp, ?_, Nat.add_comm _ _, grown⟩
      exact Nat.lt_of_le_of_lt (Nat.sub_le _ _) ht

end Reserve

/-- Over any time the covered interest of the whole exceeds that of the debt by little. -/
theorem InterestCovered.accrued {rate variableRate liquidity debt elapsed : Nat}
    (h : InterestCovered rate variableRate liquidity debt) (he : elapsed < 2 ^ 40) :
    (liquidity + debt) * (rate * elapsed / SECONDS_PER_YEAR) ≤
      debt * (variableRate / SECONDS_PER_YEAR * elapsed) + 2 * 10 ^ 22 +
        4 * 10 ^ 16 * (liquidity + debt) := by
  unfold InterestCovered at h
  have year : SECONDS_PER_YEAR = 31536000 := rfl
  have part : debt ≤ liquidity + debt := Nat.le_add_left _ _
  generalize liquidity + debt = total at h part ⊢
  -- the linear interest is cut to whole units, the compounded one to whole seconds
  have linear : total * (rate * elapsed / SECONDS_PER_YEAR) * SECONDS_PER_YEAR ≤
      total * rate * elapsed := by
    rw [Nat.mul_assoc, Nat.mul_assoc]
    exact Nat.mul_le_mul_left _ (Nat.div_mul_le_self _ _)
  have perSecond : variableRate ≤ SECONDS_PER_YEAR * (variableRate / SECONDS_PER_YEAR) +
      SECONDS_PER_YEAR := (Nat.lt_mul_div_succ variableRate (by decide)).le
  have compounded : debt * variableRate * elapsed ≤ SECONDS_PER_YEAR *
      (debt * (variableRate / SECONDS_PER_YEAR * elapsed)) +
        SECONDS_PER_YEAR * (debt * elapsed) := by
    calc debt * variableRate * elapsed
        ≤ debt * (SECONDS_PER_YEAR * (variableRate / SECONDS_PER_YEAR) + SECONDS_PER_YEAR) *
            elapsed := Nat.mul_le_mul_right _ (Nat.mul_le_mul_left _ perSecond)
      _ = _ := by ring
  have covered := Nat.mul_le_mul_right elapsed h
  have debtTime : debt * elapsed ≤ total * 2 ^ 40 := Nat.mul_le_mul part he.le
  have totalTime : total * elapsed ≤ total * 2 ^ 40 := Nat.mul_le_mul_left _ he.le
  have expand : (2 * (debt * variableRate) + 10 ^ 18 + debt + (10 ^ 12 + 1) * total) * elapsed =
      2 * (debt * variableRate * elapsed) + 10 ^ 18 * elapsed + debt * elapsed +
        (10 ^ 12 + 1) * (total * elapsed) := by ring
  rw [expand, Nat.mul_assoc 2] at covered
  rw [year] at linear compounded ⊢
  omega

namespace Reserve

variable {r : Reserve} {t n liquidity balance claimed backing : Nat}

/-- A reserve at par whose elTokens are covered by a liquidity and its debt stays solvent. -/
theorem AtPar.claims_le_assets (par : r.AtPar) (ht : IsBlockTimestamp t)
    (held : liquidity ≤ balance)
    (supply : r.elToken.totalSupply ≤ liquidity + r.variableDebtToken.totalSupply)
    (covered : InterestCovered r.currentLiquidityRate r.currentVariableBorrowRate liquidity
      r.variableDebtToken.totalSupply)
    (started : n = 0 → r.elToken.totalSupply = 0) (hc : r.claims t = .ok claimed)
    (ha : r.assets t balance = .ok backing) : claimed ≤ backing + (n + backing / 10 ^ 9) := by
  simp only [claims, assets, ELToken.scaledTotalSupply, VariableDebtToken.scaledTotalSupply,
    bind_eq_ok, pure_eq_ok] at hc ha
  obtain ⟨income, hi, hclaimed⟩ := hc
  obtain ⟨debtIndex, hd, debt, hdebt, rfl⟩ := ha
  obtain ⟨elapsed, he, rfl, grown⟩ := par.views ht hi hd
  have small := covered.accrued he
  obtain ⟨_, rfl⟩ := rayMul_eq_ok.mp hclaimed
  obtain ⟨_, rfl⟩ := rayMul_eq_ok.mp hdebt
  obtain rfl | hn := Nat.eq_zero_or_pos n
  · rw [started rfl, Nat.zero_mul, HalfUp.zero_left]
    exact Nat.zero_le _
  · generalize r.currentLiquidityRate * elapsed / SECONDS_PER_YEAR = linear at small ⊢
    obtain ⟨up, _⟩ := HalfUp.two_mul_bounds (r.elToken.totalSupply * (RAY + linear)) RAY_pos
    obtain ⟨_, down⟩ := HalfUp.two_mul_bounds
      (r.variableDebtToken.totalSupply * debtIndex) RAY_pos
    generalize halfUp (r.elToken.totalSupply * (RAY + linear)) RAY = claimed at up ⊢
    generalize halfUp (r.variableDebtToken.totalSupply * debtIndex) RAY = owed at down ⊢
    have whole := Nat.mul_le_mul_right (RAY + linear) supply
    have accrued := Nat.mul_le_mul_left r.variableDebtToken.totalSupply grown
    rw [Nat.mul_add (liquidity + _)] at whole
    rw [Nat.mul_add] at accrued
    have ray : RAY = 10 ^ 27 := rfl
    rw [ray] at up down whole accrued
    omega

end Reserve

end ElectroLend
