import ElectroLend.Lending.DepositorsShare
import ElectroLend.Library.KinkedCurve

namespace ElectroLend

open Outcome

namespace DefaultReserveInterestRateStrategy

variable {strategy : DefaultReserveInterestRateStrategy}
  {market utilization totalDebt liquidity stableRate variableRate : Nat}

/-- The stable rate above the market's. -/
def stableCurve (strategy : DefaultReserveInterestRateStrategy) (utilization : Nat) : Nat :=
  KinkedCurve.divideFirst RAY strategy.OPTIMAL_UTILIZATION_RATE strategy.stableRateSlope1
    strategy.stableRateSlope2 utilization

/-- The variable rate above the base rate. -/
def variableCurve (strategy : DefaultReserveInterestRateStrategy) (utilization : Nat) : Nat :=
  KinkedCurve.multiplyFirst RAY strategy.OPTIMAL_UTILIZATION_RATE strategy.variableRateSlope1
    strategy.variableRateSlope2 utilization

theorem borrowRates_eq_ok (h : strategy.borrowRates market utilization = .ok (stableRate, variableRate)) :
    (utilization ≤ strategy.OPTIMAL_UTILIZATION_RATE → 0 < strategy.OPTIMAL_UTILIZATION_RATE) ∧
      stableRate = market + strategy.stableCurve utilization ∧
      variableRate = strategy.baseVariableBorrowRate + strategy.variableCurve utilization := by
  unfold stableCurve variableCurve KinkedCurve.divideFirst KinkedCurve.multiplyFirst
  simp only [borrowRates, ite_eq_ok, bind_eq_ok, pure_eq_ok, SafeMath.sub_eq_ok, SafeMath.add_eq_ok,
    rayMul_eq_ok, rayDiv_eq_ok, Prod.mk.injEq] at h
  obtain ⟨hlt, _, ⟨_, rfl⟩, ratio, ⟨_, hratio⟩, _, ⟨_, rfl⟩, _, ⟨_, rfl⟩, _, ⟨_, rfl⟩, _, ⟨_, rfl⟩, _,
    ⟨_, rfl⟩, _, ⟨_, rfl⟩, rfl, rfl⟩ | ⟨hle, _, ⟨⟨hne, _⟩, rfl⟩, _, ⟨_, rfl⟩, _, ⟨_, rfl⟩, _,
    ⟨_, rfl⟩, _, ⟨_, rfl⟩, _, ⟨_, rfl⟩, rfl, rfl⟩ := h
  · have ratio_eq : ratio = KinkedCurve.excess RAY strategy.OPTIMAL_UTILIZATION_RATE utilization :=
      hratio.symm
    rw [if_pos hlt, if_pos hlt, ← ratio_eq]
    exact ⟨fun hle => by omega, Nat.add_assoc .., Nat.add_assoc ..⟩
  · rw [if_neg hle, if_neg hle]
    exact ⟨fun _ => Nat.pos_of_ne_zero hne, rfl, rfl⟩

theorem utilizationRate_eq_ok (hdebt : totalDebt ≠ 0)
    (h : utilizationRate totalDebt liquidity = .ok utilization) :
    halfUp (totalDebt * RAY) (liquidity + totalDebt) = utilization := by
  simp only [utilizationRate, ite_eq_ok, bind_eq_ok, SafeMath.add_eq_ok] at h
  obtain ⟨hz, _⟩ | ⟨_, _, ⟨_, rfl⟩, hd⟩ := h
  · exact absurd hz hdebt
  · exact (rayDiv_eq_ok.mp hd).2

theorem utilization_le_ray (h : utilizationRate totalDebt liquidity = .ok utilization) :
    utilization ≤ RAY := by
  by_cases hz : totalDebt = 0
  · simp only [utilizationRate, hz, if_true, Except.ok.injEq] at h
    omega
  · have hu := utilizationRate_eq_ok hz h
    rw [← hu]
    refine HalfUp.le_of_le_mul ?_ (by omega)
    rw [Nat.mul_comm RAY]
    exact Nat.mul_le_mul_right RAY (by omega)

/-- The steps of the calculation: the utilization, the borrow rates at it, their average over the
debts, and the depositors' part of that average. -/
theorem ratesAtLiquidity_steps {stable debt avg factor : Nat} {rates : InterestRates}
    (h : strategy.ratesAtLiquidity market liquidity stable debt avg factor = .ok rates) :
    ∃ u overall gross, utilizationRate (stable + debt) liquidity = .ok u ∧
      strategy.borrowRates market u = .ok (rates.stableBorrowRate, rates.variableBorrowRate) ∧
      getOverallBorrowRate stable debt rates.variableBorrowRate avg = .ok overall ∧
      rayMul overall u = .ok gross ∧
      percentMul gross (PERCENTAGE_FACTOR - factor) = .ok rates.liquidityRate := by
  simp only [ratesAtLiquidity, bind_eq_ok, pure_eq_ok, SafeMath.add_eq_ok, SafeMath.sub_eq_ok,
    Prod.exists] at h
  obtain ⟨_, ⟨_, rfl⟩, u, hu, _, _, hrates, overall, ho, gross, hgross, _, ⟨_, rfl⟩, _, hshare, rfl⟩ := h
  exact ⟨u, overall, gross, hu, hrates, ho, hgross, hshare⟩

end DefaultReserveInterestRateStrategy

end ElectroLend
