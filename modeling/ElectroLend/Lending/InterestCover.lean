import ElectroLend.Lending.RateInputs

namespace ElectroLend

open Outcome

/-- What a liquidity and a variable debt earn at the liquidity rate is paid at the variable rate, up
to the rounding of the rates. -/
def InterestCovered (liquidityRate variableRate liquidity debt : Nat) : Prop :=
  2 * ((liquidity + debt) * liquidityRate) ≤
    2 * (debt * variableRate) + 10 ^ 18 + debt + (10 ^ 12 + 1) * (liquidity + debt)

namespace DefaultReserveInterestRateStrategy

variable {debt liquidity variableRate avg overall utilization : Nat}

theorem getOverallBorrowRate_le
    (h : getOverallBorrowRate 0 debt variableRate avg = .ok overall) :
    2 * (debt * overall) ≤ 2 * (debt * variableRate) + 10 ^ 18 + debt ∧
      overall ≤ variableRate + 10 ^ 18 := by
  simp only [getOverallBorrowRate, SafeMath.add_eq_ok, ite_eq_ok, bind_eq_ok, Nat.zero_add] at h
  obtain ⟨_, ⟨_, rfl⟩, ⟨hz, h⟩ | ⟨hne, _, hw, mass, hm, _, hz, _, hzm, _, ⟨_, rfl⟩, _, hw', h⟩⟩ := h
  · cases Except.ok.inj h
    omega
  · obtain ⟨_, rfl⟩ := wadToRay_eq_ok.mp hw
    cases ok_unique hw hw'
    obtain ⟨_, rfl⟩ := wadToRay_eq_ok.mp hz
    rw [Nat.zero_mul, rayMul_zero_left] at hzm
    cases Except.ok.inj hzm
    obtain ⟨_, rfl⟩ := rayMul_eq_ok.mp hm
    obtain ⟨_, rfl⟩ := rayDiv_eq_ok.mp h
    have ratio : WAD_RAY_RATIO = 10 ^ 9 := rfl
    have ray : RAY = 10 ^ 27 := rfl
    have hd : 0 < debt * WAD_RAY_RATIO := Nat.mul_pos (by omega) (by decide)
    obtain ⟨up, _⟩ := HalfUp.two_mul_bounds (debt * WAD_RAY_RATIO * variableRate) RAY_pos
    rw [Nat.add_zero]
    generalize halfUp (debt * WAD_RAY_RATIO * variableRate) RAY = mass at up ⊢
    obtain ⟨up', _⟩ := HalfUp.two_mul_bounds (mass * RAY) hd
    generalize halfUp (mass * RAY) (debt * WAD_RAY_RATIO) = overall at up' ⊢
    rw [Nat.mul_right_comm] at up up'
    have weighted : 2 * (debt * overall) ≤ 2 * (debt * variableRate) + 10 ^ 18 + debt := by
      rw [ratio, ray] at up up'
      omega
    refine ⟨weighted, ?_⟩
    by_contra hgt
    have far := Nat.mul_le_mul_left debt (show variableRate + 10 ^ 18 + 1 ≤ overall by omega)
    have one : 10 ^ 18 ≤ debt * 10 ^ 18 := Nat.le_mul_of_pos_left _ (by omega)
    rw [Nat.mul_add, Nat.mul_add, Nat.mul_one] at far
    omega

theorem utilizationRate_le (h : utilizationRate debt liquidity = .ok utilization) :
    2 * ((liquidity + debt) * utilization) ≤ 2 * (debt * RAY) + (liquidity + debt) := by
  simp only [utilizationRate, ite_eq_ok, bind_eq_ok, SafeMath.add_eq_ok] at h
  obtain ⟨_, h⟩ | ⟨hne, _, ⟨_, rfl⟩, h⟩ := h
  · cases Except.ok.inj h
    omega
  · obtain ⟨_, rfl⟩ := rayDiv_eq_ok.mp h
    exact (HalfUp.two_mul_bounds (debt * RAY) (show 0 < liquidity + debt by omega)).1

theorem ratesAtLiquidity_covered {strategy : DefaultReserveInterestRateStrategy}
    {market factor : Nat} {rates : InterestRates}
    (hmax : rates.variableBorrowRate ≤ uint128Max)
    (h : strategy.ratesAtLiquidity market liquidity 0 debt avg factor = .ok rates) :
    InterestCovered rates.liquidityRate rates.variableBorrowRate liquidity debt := by
  simp only [ratesAtLiquidity, bind_eq_ok, SafeMath.add_eq_ok, SafeMath.sub_eq_ok, pure_eq_ok,
    Nat.zero_add, Prod.exists] at h
  obtain ⟨_, ⟨_, rfl⟩, utilization, hu, stable, variableRate, _, overall, ho, gross, hg, share,
    ⟨_, hshare⟩, rate, hr, rfl⟩ := h
  dsimp only at hmax ⊢
  have paid : rate ≤ gross := percentMul_le (by omega) hr
  obtain ⟨_, rfl⟩ := rayMul_eq_ok.mp hg
  obtain ⟨weighted, bound⟩ := getOverallBorrowRate_le ho
  have used := utilizationRate_le hu
  obtain ⟨up, _⟩ := HalfUp.two_mul_bounds (overall * utilization) RAY_pos
  generalize halfUp (overall * utilization) RAY = gross at paid up
  unfold InterestCovered
  generalize htotal : liquidity + debt = total at used ⊢
  -- the whole earns at the liquidity rate what the debt pays at the overall rate
  have earned : 2 * (RAY * (total * rate)) ≤ RAY * (2 * (debt * overall)) + total * overall +
      RAY * total := by
    calc 2 * (RAY * (total * rate)) = total * (2 * (RAY * rate)) := by ring
      _ ≤ total * (2 * (RAY * gross)) :=
          Nat.mul_le_mul_left _ (Nat.mul_le_mul_left _ (Nat.mul_le_mul_left _ paid))
      _ ≤ total * (2 * (overall * utilization) + RAY) := Nat.mul_le_mul_left _ up
      _ = overall * (2 * (total * utilization)) + RAY * total := by ring
      _ ≤ overall * (2 * (debt * RAY) + total) + RAY * total :=
          Nat.add_le_add_right (Nat.mul_le_mul_left _ used) _
      _ = RAY * (2 * (debt * overall)) + total * overall + RAY * total := by ring
  have slope : total * overall ≤ total * 10 ^ 39 := by
    have max : uint128Max + 10 ^ 18 ≤ 10 ^ 39 := by decide
    exact Nat.mul_le_mul_left _ (by omega)
  have ray : RAY = 10 ^ 27 := rfl
  rw [ray] at earned
  omega

end DefaultReserveInterestRateStrategy

namespace Reserve

variable {r r' : Reserve} {t market balance added taken liquidity index : Nat}

theorem updateInterestRates_variableRate_le
    (h : r.updateInterestRates t market balance added taken = .ok r') :
    r'.currentVariableBorrowRate ≤ uint128Max := by
  simp only [updateInterestRates, bind_eq_ok, require_eq_ok, pure_eq_ok] at h
  obtain ⟨_, _, _, _, _, _, _, hmax, rfl⟩ := h
  rw [uint128_of_le hmax]
  exact hmax

/-- At par and without stable debt, rates that fit a liquidity are covered by the debt. -/
theorem RatesAt.covered (hat : r.RatesAt t market liquidity)
    (hmax : r.currentVariableBorrowRate ≤ uint128Max) (hindex : r.variableBorrowIndex = RAY)
    (hstable : r.stableDebtToken.totalSupply = 0) :
    InterestCovered r.currentLiquidityRate r.currentVariableBorrowRate liquidity
      r.variableDebtToken.totalSupply := by
  simp only [RatesAt, calculateInterestRates, StableDebtToken.getTotalSupplyAndAvgRate,
    StableDebtToken.calcTotalSupply, hstable, hindex, if_true, bind_eq_ok, pure_eq_ok,
    Prod.exists, Prod.mk.injEq, Except.ok.injEq] at hat
  obtain ⟨_, _, ⟨_, rfl, rfl, rfl⟩, debt, hdebt, hrates⟩ := hat
  cases rayMul_by_ray hdebt
  obtain ⟨_, hat⟩ := DefaultReserveInterestRateStrategy.calculateInterestRates_eq_ok hrates
  exact DefaultReserveInterestRateStrategy.ratesAtLiquidity_covered hmax hat

end Reserve

end ElectroLend
