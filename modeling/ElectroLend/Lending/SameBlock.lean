import ElectroLend.Lending.RateInputs

namespace ElectroLend

open Outcome

/-- A stable debt token without supply has no average rate either. -/
def StableDebtToken.RestsAtZero (token : StableDebtToken) : Prop :=
  token.totalSupply = 0 → token.avgStableRate = 0

theorem StableDebtToken.RestsAtZero.mint {token token' : StableDebtToken} {t amount rate : Nat}
    {user u : Address} {first : Bool} (h : token.mint t user u amount rate = .ok (first, token')) :
    token'.RestsAtZero := by
  obtain ⟨_, supply, _, newAvg, _, _, _, _, havg, _, _, hsupply, _⟩ := StableDebtToken.mint_eq_ok h
  intro hzero
  -- the average of nothing would be a division by zero
  rw [← hsupply, hzero] at havg
  simp [weightedRate, wadToRay_eq_ok, rayDiv_eq_ok] at havg

theorem StableDebtToken.RestsAtZero.burn {token token' : StableDebtToken} {t amount : Nat}
    {u : Address} (h : token.burn t u amount = .ok token') : token'.RestsAtZero := by
  obtain ⟨_, supply, _, _, hnext, _⟩ := StableDebtToken.burn_eq_ok h
  intro hzero
  simp only [supplyAfterBurn, ite_eq_ok, bind_eq_ok, SafeMath.sub_eq_ok, pure_eq_ok,
    Except.ok.injEq, Prod.mk.injEq] at hnext
  obtain ⟨_, havg, _⟩ | ⟨hlt, _, ⟨_, rfl⟩, _, _, _, _, _, _, _, _, hcase⟩ := hnext
  · exact havg.symm
  · obtain ⟨_, havg, _⟩ | ⟨_, _, _, _, _, _, _, _, hleft⟩ := hcase
    · exact havg.symm
    · omega

namespace Reserve

variable {r r' : Reserve} {t : Nat}

/-- What the recorded debts of a reserve are valued by. -/
structure DebtBooks where
  lastUpdateTimestamp : Nat
  stableSupply : Nat
  avgStableRate : Nat
  stableSupplyTimestamp : Nat
  scaledVariableDebt : Nat
  variableBorrowIndex : Nat

def debtBooks (r : Reserve) : DebtBooks where
  lastUpdateTimestamp := r.lastUpdateTimestamp
  stableSupply := r.stableDebtToken.totalSupply
  avgStableRate := r.stableDebtToken.avgStableRate
  stableSupplyTimestamp := r.stableDebtToken.totalSupplyTimestamp
  scaledVariableDebt := r.variableDebtToken.totalSupply
  variableBorrowIndex := r.variableBorrowIndex

/-- Both debts can be valued at a time, and their sum fits a word. -/
def Valued (r : Reserve) (t : Nat) : Prop :=
  ∃ stable variableDebt, r.stableDebtToken.totalSupplyAt t = .ok stable ∧
    rayMul r.variableDebtToken.scaledTotalSupply r.variableBorrowIndex = .ok variableDebt ∧
    variableDebt + stable ≤ uint256Max

theorem Valued.congr (h : r'.debtBooks = r.debtBooks) (valued : r.Valued t) : r'.Valued t := by
  simp only [debtBooks, DebtBooks.mk.injEq] at h
  obtain ⟨_, hsupply, havg, htime, hdebt, hindex⟩ := h
  simp only [Valued, StableDebtToken.totalSupplyAt, StableDebtToken.calcTotalSupply,
    VariableDebtToken.scaledTotalSupply] at valued ⊢
  rwa [hsupply, havg, htime, hdebt, hindex]

theorem updateInterestRates_valued {market balance added taken : Nat}
    (h : r.updateInterestRates t market balance added taken = .ok r') : r'.Valued t := by
  obtain ⟨rates, hrates, rfl⟩ := updateInterestRates_eq_ok h
  simp only [calculateInterestRates, StableDebtToken.getTotalSupplyAndAvgRate, bind_eq_ok, pure_eq_ok,
    Prod.exists, Prod.mk.injEq] at hrates
  obtain ⟨_, _, ⟨stable, hstable, rfl, rfl⟩, variableDebt, hvariable, hstrategy⟩ := hrates
  obtain ⟨_, hat⟩ := DefaultReserveInterestRateStrategy.calculateInterestRates_eq_ok hstrategy
  simp only [DefaultReserveInterestRateStrategy.ratesAtLiquidity, bind_eq_ok,
    SafeMath.add_eq_ok] at hat
  obtain ⟨_, ⟨hsum, _⟩, _⟩ := hat
  exact ⟨stable, variableDebt, hstable, hvariable, by omega⟩

theorem valued_empty (hstable : r.stableDebtToken.totalSupply = 0)
    (hvariable : r.variableDebtToken.totalSupply = 0) : r.Valued t := by
  refine ⟨0, 0, StableDebtToken.totalSupplyAt_eq_zero_iff.mpr hstable, ?_, Nat.zero_le _⟩
  rw [VariableDebtToken.scaledTotalSupply, hvariable, rayMul_zero_left]

theorem calculateLinearInterest_now (rate t : Nat) : calculateLinearInterest rate t t = .ok RAY := by
  refine calculateLinearInterest_eq_ok.mpr ⟨⟨Nat.le_refl _, ?_, ?_⟩, ?_⟩
  · simp
  · simp; decide
  · simp

theorem nextLiquidityIndex_now (now : r.lastUpdateTimestamp = t)
    (hmax : r.liquidityIndex ≤ uint128Max) : r.nextLiquidityIndex t = .ok r.liquidityIndex := by
  unfold nextLiquidityIndex
  split
  · rw [now, calculateLinearInterest_now, ok_bind, ray_rayMul hmax, ok_bind, require_of hmax, ok_bind,
      uint128_of_le hmax]
    rfl
  · rfl

theorem nextVariableBorrowIndex_now (now : r.lastUpdateTimestamp = t)
    (hmax : r.variableBorrowIndex ≤ uint128Max) :
    r.nextVariableBorrowIndex t = .ok r.variableBorrowIndex := by
  unfold nextVariableBorrowIndex
  split
  · rw [now, calculateCompoundedInterest_self, ok_bind, ray_rayMul hmax, ok_bind, require_of hmax,
      ok_bind, uint128_of_le hmax]
    rfl
  · rfl

theorem compounded_of_valued {stable : Nat} (ht : IsBlockTimestamp t)
    (hle : r.stableDebtToken.totalSupplyTimestamp ≤ t) (rests : r.stableDebtToken.RestsAtZero)
    (h : r.stableDebtToken.totalSupplyAt t = .ok stable) :
    ∃ cumulated, calculateCompoundedInterest r.stableDebtToken.avgStableRate
        r.stableDebtToken.totalSupplyTimestamp t = .ok cumulated ∧
      rayMul r.stableDebtToken.totalSupply cumulated = .ok stable := by
  simp only [StableDebtToken.totalSupplyAt, StableDebtToken.calcTotalSupply, ite_eq_ok, bind_eq_ok,
    Except.ok.injEq] at h
  obtain ⟨hz, rfl⟩ | ⟨_, cumulated, hc, hm⟩ := h
  · have elapsed : t - r.stableDebtToken.totalSupplyTimestamp < 2 ^ 40 := by
      unfold IsBlockTimestamp at ht
      omega
    rw [rests hz, hz]
    exact ⟨_, calculateCompoundedInterest_total (Nat.zero_le _) hle elapsed, rayMul_zero_left _⟩
  · exact ⟨cumulated, hc, hm⟩

/-- Neither of the two mints of `updateState` is reached. -/
theorem mintToTreasury_now (ht : IsBlockTimestamp t)
    (hle : r.stableDebtToken.totalSupplyTimestamp ≤ t) (rests : r.stableDebtToken.RestsAtZero)
    (valued : r.Valued t) : r.mintToTreasury t r.variableBorrowIndex t = .ok r.elToken := by
  obtain ⟨stable, variableDebt, hstable, hvariable, hsum⟩ := valued
  obtain ⟨cumulated, hc, hm⟩ := compounded_of_valued ht hle rests hstable
  unfold mintToTreasury
  by_cases hz : r.configuration.getReserveFactor = 0
  · exact if_pos hz
  · have supply : r.stableDebtToken.getSupplyData t = .ok (r.stableDebtToken.totalSupply, stable,
        r.stableDebtToken.avgStableRate, r.stableDebtToken.totalSupplyTimestamp) :=
      bind_eq_ok.mpr ⟨stable, hstable, rfl⟩
    have none : percentMul 0 r.configuration.getReserveFactor = .ok 0 := by simp [percentMul]
    simp [hz, supply, hvariable, hc, hm, SafeMath.add, SafeMath.sub, hsum, none]

/-- Once the debts are valued, an update in the block of the last one goes through and changes
nothing. -/
theorem updateState_now (ht : IsBlockTimestamp t) (deployed : r.variableDebtTokenAddress ≠ 0)
    (now : r.lastUpdateTimestamp = t) (hliquidity : r.liquidityIndex ≤ uint128Max)
    (hborrow : r.variableBorrowIndex ≤ uint128Max)
    (hle : r.stableDebtToken.totalSupplyTimestamp ≤ t) (rests : r.stableDebtToken.RestsAtZero)
    (valued : r.Valued t) : r.updateState t = .ok r := by
  have time : uint40 t = r.lastUpdateTimestamp := by rw [now, ht.uint40]
  have indexes : r.updateIndexes t = .ok r := by
    simp only [updateIndexes, nextLiquidityIndex_now now hliquidity,
      nextVariableBorrowIndex_now now hborrow, mintLinearInterest, ok_bind, ne_eq, not_true_eq_false,
      if_false, time]
    rfl
  simp only [updateState, requireContract, require_of deployed, ok_bind, indexes, now,
    mintToTreasury_now ht hle rests valued]
  rfl

end Reserve

end ElectroLend
