import ElectroLend.Lending.BorrowRates
import ElectroLend.Pool.Scripts

namespace ElectroLend

open Outcome

namespace DefaultReserveInterestRateStrategy

variable {stableDebt variableDebt variableRate stableRate overall : Nat}

/-- The average of the two rates exceeds the larger one by no more than one wad spread over the
debts, and one unit. -/
theorem overall_le_max_rate (hdebt : 0 < stableDebt + variableDebt)
    (h : getOverallBorrowRate stableDebt variableDebt variableRate stableRate = .ok overall) :
    overall ≤ max variableRate stableRate + (10 ^ 18 / (stableDebt + variableDebt) + 1) := by
  have ratio : 0 < WAD_RAY_RATIO := by decide
  have weights : variableDebt * WAD_RAY_RATIO + stableDebt * WAD_RAY_RATIO =
      (stableDebt + variableDebt) * WAD_RAY_RATIO := by
    rw [← Nat.add_mul, Nat.add_comm variableDebt]
  have positive : 0 < (stableDebt + variableDebt) * WAD_RAY_RATIO := Nat.mul_pos hdebt ratio
  have slack : RAY / ((stableDebt + variableDebt) * WAD_RAY_RATIO) =
      10 ^ 18 / (stableDebt + variableDebt) := by
    have ray : RAY = 10 ^ 18 * WAD_RAY_RATIO := by decide
    rw [ray, Nat.mul_div_mul_right _ _ ratio]
  have bound := HalfUp.average_le (r := variableRate) (s := stableRate) RAY_pos
    (weights ▸ positive)
  rw [weights, slack] at bound
  rw [getOverallBorrowRate_eq_ok (Nat.ne_of_gt hdebt) h]
  exact bound

end DefaultReserveInterestRateStrategy

open DefaultReserveInterestRateStrategy

/-- The depositors' rate is at most the average rate of the borrowers, which is at most the larger
of the two rates; and on the whole liquidity it pays no more than the borrowers pay on their debts,
each up to the roundings. -/
theorem liquidityRate_le_overall {strategy : DefaultReserveInterestRateStrategy}
    {market liquidity stableDebt variableDebt avg factor : Nat} {rates : InterestRates}
    (h : strategy.ratesAtLiquidity market liquidity stableDebt variableDebt avg factor = .ok rates)
    (hdebt : 0 < stableDebt + variableDebt) :
    ∃ overall,
      getOverallBorrowRate stableDebt variableDebt rates.variableBorrowRate avg = .ok overall ∧
      rates.liquidityRate ≤ overall ∧
      overall ≤ max rates.variableBorrowRate avg + (10 ^ 18 / (stableDebt + variableDebt) + 1) ∧
      rates.liquidityRate * (liquidity + (stableDebt + variableDebt)) ≤
        overall * (stableDebt + variableDebt) +
          (liquidity + (stableDebt + variableDebt)) * (overall / RAY + 1) := by
  obtain ⟨utilization, overall, gross, hutilization, _, hoverall, hgross, hshare⟩ :=
    ratesAtLiquidity_steps h
  have share : rates.liquidityRate ≤ gross := percentMul_le (Nat.sub_le _ _) hshare
  have lent := utilization_le_ray hutilization
  have spread := utilizationRate_eq_ok (Nat.ne_of_gt hdebt) hutilization
  obtain ⟨_, hgross⟩ := rayMul_eq_ok.mp hgross
  refine ⟨overall, hoverall, ?_, overall_le_max_rate hdebt hoverall, ?_⟩
  · have part : gross ≤ overall := by
      rw [← hgross]
      exact KinkedCurve.part_le RAY_pos lent
    exact share.trans part
  · have whole : 0 < liquidity + (stableDebt + variableDebt) := by omega
    have earned := HalfUp.spread_mul_le RAY_pos whole overall (stableDebt + variableDebt)
    rw [spread, hgross] at earned
    exact (Nat.mul_le_mul_right _ share).trans earned

/-- Half of a reserve is lent out, a fifth of that at a stable rate of 10%. -/
theorem market_pays_depositors : ∃ rates overall,
    Market.strategy.ratesAtLiquidity (3 * 10 ^ 25) (5 * 10 ^ 19) (10 ^ 19) (4 * 10 ^ 19) (10 ^ 26)
        1000 = .ok rates ∧
      0 < rates.liquidityRate ∧ rates.liquidityRate ≤ overall ∧
      overall ≤ max rates.variableBorrowRate (10 ^ 26) + 1 := by
  have succeeds : succeedsWith (Market.strategy.ratesAtLiquidity (3 * 10 ^ 25) (5 * 10 ^ 19)
      (10 ^ 19) (4 * 10 ^ 19) (10 ^ 26) 1000) (fun rates => decide (0 < rates.liquidityRate)) = true := by
    decide +kernel
  obtain ⟨rates, h, hpos⟩ := succeedsWith_iff.mp succeeds
  obtain ⟨overall, _, hle, hmax, _⟩ := liquidityRate_le_overall h (by decide)
  exact ⟨rates, overall, h, of_decide_eq_true hpos, hle, hmax⟩

end ElectroLend
