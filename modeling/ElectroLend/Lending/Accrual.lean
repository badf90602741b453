import ElectroLend.Lending.Reserve

namespace ElectroLend

open Outcome

/-- Block timestamps fit the 40-bit fields that the contracts store them in. -/
def IsBlockTimestamp (t : Nat) : Prop := t < 2 ^ 40

instance (t : Nat) : Decidable (IsBlockTimestamp t) := inferInstanceAs (Decidable (t < 2 ^ 40))

theorem IsBlockTimestamp.uint40 {t : Nat} (ht : IsBlockTimestamp t) : uint40 t = t :=
  Nat.mod_eq_of_lt ht

theorem uint128_of_le {n : Nat} (h : n ≤ uint128Max) : uint128 n = n := by
  have hmax : uint128Max < 2 ^ 128 := by decide
  exact Nat.mod_eq_of_lt (by omega)

namespace Reserve

variable {r r' : Reserve} {t index : Nat}

theorem nextLiquidityIndex_eq_ok (h : r.nextLiquidityIndex t = .ok index) :
    (r.currentLiquidityRate = 0 ∧ index = r.liquidityIndex) ∨
      (0 < r.currentLiquidityRate ∧ ∃ cumulated,
        calculateLinearInterest r.currentLiquidityRate r.lastUpdateTimestamp t = .ok cumulated ∧
        rayMul cumulated r.liquidityIndex = .ok index ∧ index ≤ uint128Max) := by
  simp only [nextLiquidityIndex, ite_eq_ok, bind_eq_ok, require_eq_ok, pure_eq_ok,
    Except.ok.injEq] at h
  obtain ⟨hpos, cumulated, hc, next, hm, _, hmax, rfl⟩ | ⟨hz, rfl⟩ := h
  · rw [uint128_of_le hmax]
    exact .inr ⟨hpos, cumulated, hc, hm, hmax⟩
  · exact .inl ⟨by omega, rfl⟩

theorem nextVariableBorrowIndex_eq_ok (h : r.nextVariableBorrowIndex t = .ok index) :
    ((r.currentLiquidityRate = 0 ∨ r.variableDebtToken.totalSupply = 0) ∧
        index = r.variableBorrowIndex) ∨
      (0 < r.currentLiquidityRate ∧ r.variableDebtToken.totalSupply ≠ 0 ∧ ∃ cumulated,
        calculateCompoundedInterest r.currentVariableBorrowRate r.lastUpdateTimestamp t =
          .ok cumulated ∧
        rayMul cumulated r.variableBorrowIndex = .ok index ∧ index ≤ uint128Max) := by
  simp only [nextVariableBorrowIndex, ite_eq_ok, bind_eq_ok, require_eq_ok, pure_eq_ok,
    Except.ok.injEq] at h
  obtain ⟨⟨hpos, hne⟩, cumulated, hc, next, hm, _, hmax, rfl⟩ | ⟨hz, rfl⟩ := h
  · rw [uint128_of_le hmax]
    exact .inr ⟨hpos, hne, cumulated, hc, hm, hmax⟩
  · refine .inl ⟨?_, rfl⟩
    by_cases hr : r.currentLiquidityRate = 0
    · exact .inl hr
    · exact .inr (by_contra fun hne => hz ⟨by omega, hne⟩)

theorem le_rayMul_left {factor next : Nat} (hf : RAY ≤ factor)
    (h : rayMul factor index = .ok next) : index ≤ next := by
  obtain ⟨_, rfl⟩ := rayMul_eq_ok.mp h
  rw [Nat.mul_comm]
  exact HalfUp.le_mul_index RAY_pos hf index

theorem le_nextLiquidityIndex (h : r.nextLiquidityIndex t = .ok index) :
    r.liquidityIndex ≤ index := by
  obtain ⟨_, rfl⟩ | ⟨_, cumulated, hc, hm, _⟩ := nextLiquidityIndex_eq_ok h
  · exact Nat.le_refl _
  · exact le_rayMul_left (calculateLinearInterest_ge hc) hm

theorem le_nextVariableBorrowIndex (h : r.nextVariableBorrowIndex t = .ok index) :
    r.variableBorrowIndex ≤ index := by
  obtain ⟨_, rfl⟩ | ⟨_, _, cumulated, hc, hm, _⟩ := nextVariableBorrowIndex_eq_ok h
  · exact Nat.le_refl _
  · exact le_rayMul_left (calculateCompoundedInterest_ge hc) hm

theorem le_getNormalizedIncome (h : r.getNormalizedIncome t = .ok index) :
    r.liquidityIndex ≤ index := by
  simp only [getNormalizedIncome, ite_eq_ok, bind_eq_ok, Except.ok.injEq] at h
  obtain ⟨_, rfl⟩ | ⟨_, cumulated, hc, hm⟩ := h
  · exact Nat.le_refl _
  · exact le_rayMul_left (calculateLinearInterest_ge hc) hm

theorem le_getNormalizedDebt (h : r.getNormalizedDebt t = .ok index) :
    r.variableBorrowIndex ≤ index := by
  simp only [getNormalizedDebt, ite_eq_ok, bind_eq_ok, Except.ok.injEq] at h
  obtain ⟨_, rfl⟩ | ⟨_, cumulated, hc, hm⟩ := h
  · exact Nat.le_refl _
  · exact le_rayMul_left (calculateCompoundedInterest_ge hc) hm

theorem getNormalizedIncome_eq_next {view : Nat} (ht : IsBlockTimestamp t)
    (hv : r.getNormalizedIncome t = .ok view) (hn : r.nextLiquidityIndex t = .ok index) :
    view = index := by
  simp only [getNormalizedIncome, ht.uint40, ite_eq_ok, bind_eq_ok, Except.ok.injEq] at hv
  obtain ⟨hlast, rfl⟩ | ⟨_, linear, hl, hm⟩ := hv
  · obtain ⟨_, rfl⟩ | ⟨_, cumulated, hc, hm, _⟩ := nextLiquidityIndex_eq_ok hn
    · rfl
    · rw [hlast] at hc
      rw [calculateLinearInterest_self hc] at hm
      exact (rayMul_one_ray hm).symm
  · obtain ⟨hz, rfl⟩ | ⟨_, cumulated, hc, hm', _⟩ := nextLiquidityIndex_eq_ok hn
    · rw [hz] at hl
      rw [calculateLinearInterest_zero_rate hl] at hm
      exact rayMul_one_ray hm
    · cases ok_unique hl hc
      exact ok_unique hm hm'

theorem getNormalizedDebt_of_accrued {view cumulated : Nat} (ht : IsBlockTimestamp t)
    (hv : r.getNormalizedDebt t = .ok view)
    (hc : calculateCompoundedInterest r.currentVariableBorrowRate r.lastUpdateTimestamp t =
      .ok cumulated)
    (hm : rayMul cumulated r.variableBorrowIndex = .ok index) : view = index := by
  simp only [getNormalizedDebt, ht.uint40, ite_eq_ok, bind_eq_ok, Except.ok.injEq] at hv
  obtain ⟨hlast, rfl⟩ | ⟨_, compounded, hc', hm'⟩ := hv
  · rw [hlast, calculateCompoundedInterest_self] at hc
    cases Except.ok.inj hc
    exact (rayMul_one_ray hm).symm
  · cases ok_unique hc hc'
    exact ok_unique hm' hm

theorem next_le_getNormalizedDebt {view : Nat} (ht : IsBlockTimestamp t)
    (hv : r.getNormalizedDebt t = .ok view) (hn : r.nextVariableBorrowIndex t = .ok index) :
    index ≤ view := by
  obtain ⟨_, rfl⟩ | ⟨_, _, cumulated, hc, hm, _⟩ := nextVariableBorrowIndex_eq_ok hn
  · exact le_getNormalizedDebt hv
  · exact Nat.le_of_eq (getNormalizedDebt_of_accrued ht hv hc hm).symm

/-- While interest accrues to the depositors, or once it has in this block, the view of the debt is
the index that an update stores. -/
theorem getNormalizedDebt_of_next (ht : IsBlockTimestamp t)
    (accrues : 0 < r.currentLiquidityRate ∨ r.lastUpdateTimestamp = t)
    (hsupply : r.variableDebtToken.totalSupply ≠ 0)
    (hn : r.nextVariableBorrowIndex t = .ok index) : r.getNormalizedDebt t = .ok index := by
  simp only [getNormalizedDebt, ht.uint40, ite_eq_ok, bind_eq_ok, Except.ok.injEq]
  obtain ⟨hz, rfl⟩ | ⟨_, _, cumulated, hc, hm, _⟩ := nextVariableBorrowIndex_eq_ok hn
  · exact .inl ⟨by omega, rfl⟩
  · by_cases hlast : r.lastUpdateTimestamp = t
    · rw [hlast, calculateCompoundedInterest_self] at hc
      cases Except.ok.inj hc
      exact .inl ⟨hlast, (rayMul_one_ray hm).symm⟩
    · exact .inr ⟨hlast, cumulated, hc, hm⟩

theorem getNormalizedDebt_eq_next {view : Nat} (ht : IsBlockTimestamp t)
    (accrues : 0 < r.currentLiquidityRate ∨ r.lastUpdateTimestamp = t)
    (hsupply : r.variableDebtToken.totalSupply ≠ 0) (hv : r.getNormalizedDebt t = .ok view)
    (hn : r.nextVariableBorrowIndex t = .ok index) : view = index :=
  ok_unique hv (getNormalizedDebt_of_next ht accrues hsupply hn)

theorem mintLinearInterest_eq_ok {elToken : ELToken}
    (h : r.mintLinearInterest t index = .ok elToken) :
    ∃ minted, elToken = r.elToken.creditTreasury minted ∧
      (index = r.liquidityIndex → minted = 0) := by
  simp only [mintLinearInterest, ite_eq_ok, bind_eq_ok, Except.ok.injEq] at h
  obtain ⟨hne, _, _, _, _, hm⟩ | ⟨_, rfl⟩ := h
  · obtain ⟨minted, _, _, rfl⟩ := ELToken.mintToTreasury_eq_ok hm
    exact ⟨minted, rfl, fun he => absurd he hne⟩
  · exact ⟨0, by simp, fun _ => rfl⟩

/-- The growth of the debts since the last update: of the variable debt by the move of its index to
`index`, and of the stable debt from the time of that update. -/
def DebtGrowth (r : Reserve) (t index accrued : Nat) : Prop :=
  ∃ variableBefore variableAfter stableBefore stableAfter,
    rayMul r.variableDebtToken.scaledTotalSupply r.variableBorrowIndex = .ok variableBefore ∧
    rayMul r.variableDebtToken.scaledTotalSupply index = .ok variableAfter ∧
    r.stableDebtToken.totalSupplyAt r.lastUpdateTimestamp = .ok stableBefore ∧
    r.stableDebtToken.totalSupplyAt t = .ok stableAfter ∧
    variableAfter + stableAfter = variableBefore + stableBefore + accrued

theorem DebtGrowth.eq_zero {accrued : Nat} (h : r.DebtGrowth t index accrued)
    (hindex : r.variableBorrowIndex = index)
    (hstable : r.stableDebtToken.totalSupply = 0 ∨ r.lastUpdateTimestamp = t) : accrued = 0 := by
  obtain ⟨variableBefore, variableAfter, stableBefore, stableAfter, hvb, hva, hsb, hsa, sum⟩ := h
  rw [hindex] at hvb
  cases ok_unique hvb hva
  have same : stableBefore = stableAfter := by
    obtain hz | hlast := hstable
    · simp only [StableDebtToken.totalSupplyAt, StableDebtToken.calcTotalSupply, hz, if_true,
        Except.ok.injEq] at hsb hsa
      exact hsb.symm.trans hsa
    · rw [hlast] at hsb
      exact ok_unique hsb hsa
  omega

/-- What `_mintToTreasury` mints is the reserve factor's share of the growth of the debts, from the
index and the time it is given to the present ones. -/
theorem mintToTreasury_growth {previous timestamp : Nat} {elToken : ELToken}
    (h : r.mintToTreasury t previous timestamp = .ok elToken) :
    ∃ share, elToken = r.elToken.creditTreasury share ∧
      ((r.configuration.getReserveFactor = 0 ∧ share = 0) ∨
        (r.configuration.getReserveFactor ≠ 0 ∧ ∃ accrued minted,
          DebtGrowth { r with variableBorrowIndex := previous, lastUpdateTimestamp := timestamp } t
            r.variableBorrowIndex accrued ∧
          percentMul accrued r.configuration.getReserveFactor = .ok minted ∧
          (minted = 0 → share = 0) ∧ (minted ≠ 0 → rayDiv minted r.liquidityIndex = .ok share))) := by
  simp only [mintToTreasury, ite_eq_ok, bind_eq_ok, Except.ok.injEq, SafeMath.add_eq_ok,
    SafeMath.sub_eq_ok] at h
  obtain ⟨hz, rfl⟩ | ⟨hne, ⟨principal, _, avg, updated⟩, hs, variableBefore, hvb, variableAfter, hva,
    cumulated, hc, stableBefore, hsb, _, ⟨_, rfl⟩, _, ⟨hle, rfl⟩, _, ⟨hle', rfl⟩, minted, hm,
    hmint⟩ := h
  · exact ⟨0, by simp, .inl ⟨hz, rfl⟩⟩
  · simp only [StableDebtToken.getSupplyData, bind_eq_ok, pure_eq_ok, Prod.mk.injEq] at hs
    obtain ⟨stable, hsupply, rfl, rfl, rfl, rfl⟩ := hs
    dsimp only at hc hsb hle hle' hm
    have before : r.stableDebtToken.totalSupplyAt timestamp = .ok stableBefore := by
      unfold StableDebtToken.totalSupplyAt StableDebtToken.calcTotalSupply
      by_cases hz : r.stableDebtToken.totalSupply = 0
      · rw [hz, rayMul_zero_left] at hsb
        cases Except.ok.inj hsb
        exact if_pos hz
      · exact (if_neg hz).trans (bind_eq_ok.mpr ⟨cumulated, hc, hsb⟩)
    have growth : DebtGrowth
        { r with variableBorrowIndex := previous, lastUpdateTimestamp := timestamp } t
        r.variableBorrowIndex (variableAfter + stable - variableBefore - stableBefore) :=
      ⟨variableBefore, variableAfter, stableBefore, stable, hvb, hva, before, hsupply, by omega⟩
    obtain ⟨hpos, hmint⟩ | ⟨hz, rfl⟩ := hmint
    · obtain ⟨share, hzero, hd, rfl⟩ := ELToken.mintToTreasury_eq_ok hmint
      exact ⟨share, rfl, .inr ⟨hne, _, minted, growth, hm, hzero, hd⟩⟩
    · exact ⟨0, by simp, .inr ⟨hne, _, minted, growth, hm, fun _ => rfl,
        fun hpos => absurd hpos hz⟩⟩

theorem mintToTreasury_eq_ok {previous timestamp : Nat} {elToken : ELToken}
    (h : r.mintToTreasury t previous timestamp = .ok elToken) :
    ∃ minted, elToken = r.elToken.creditTreasury minted ∧
      (previous = r.variableBorrowIndex →
        r.stableDebtToken.totalSupply = 0 ∨ timestamp = t → minted = 0) := by
  obtain ⟨share, rfl, hshare⟩ := mintToTreasury_growth h
  refine ⟨share, rfl, fun hindex hstable => ?_⟩
  obtain ⟨_, rfl⟩ | ⟨_, accrued, minted, growth, hm, hzero, _⟩ := hshare
  · rfl
  · obtain ⟨_, rfl⟩ := percentMul_eq_ok.mp hm
    refine hzero ?_
    rw [growth.eq_zero hindex hstable, Nat.zero_mul, HalfUp.zero_left]

/-- An update moves the two indexes and the timestamp and mints to the treasury; nothing else. -/
theorem updateState_eq_ok (h : r.updateState t = .ok r') :
    ∃ liquidityIndex variableBorrowIndex minted,
      r.variableDebtTokenAddress ≠ 0 ∧
      r.nextLiquidityIndex t = .ok liquidityIndex ∧
      r.nextVariableBorrowIndex t = .ok variableBorrowIndex ∧
      r' = { r with
        liquidityIndex
        variableBorrowIndex
        lastUpdateTimestamp := uint40 t
        elToken := r.elToken.creditTreasury minted } ∧
      (liquidityIndex = r.liquidityIndex → variableBorrowIndex = r.variableBorrowIndex →
        r.stableDebtToken.totalSupply = 0 → minted = 0) := by
  simp only [updateState, updateIndexes, requireContract, bind_eq_ok, require_eq_ok,
    pure_eq_ok] at h
  obtain ⟨_, hlisted, _, ⟨li, hli, el, hel, vi, hvi, rfl⟩, el', hel', rfl⟩ := h
  obtain ⟨first, rfl, hfirst⟩ := mintLinearInterest_eq_ok hel
  obtain ⟨second, rfl, hsecond⟩ := mintToTreasury_eq_ok hel'
  refine ⟨li, vi, first + second, hlisted, hli, hvi, by simp, ?_⟩
  intro hl hv hz
  rw [hfirst hl, hsecond hv.symm (.inl hz)]

theorem nextLiquidityIndex_again (hlast : r.lastUpdateTimestamp = t)
    (h : r.nextLiquidityIndex t = .ok index) : index = r.liquidityIndex := by
  obtain ⟨_, he⟩ | ⟨_, cumulated, hc, hm, _⟩ := nextLiquidityIndex_eq_ok h
  · exact he
  · rw [hlast] at hc
    rw [calculateLinearInterest_self hc] at hm
    exact rayMul_one_ray hm

theorem nextVariableBorrowIndex_again (hlast : r.lastUpdateTimestamp = t)
    (h : r.nextVariableBorrowIndex t = .ok index) : index = r.variableBorrowIndex := by
  obtain ⟨_, he⟩ | ⟨_, _, cumulated, hc, hm, _⟩ := nextVariableBorrowIndex_eq_ok h
  · exact he
  · rw [hlast, calculateCompoundedInterest_self] at hc
    cases Except.ok.inj hc
    exact rayMul_one_ray hm

theorem updateState_again (ht : IsBlockTimestamp t) (hlast : r.lastUpdateTimestamp = t)
    (h : r.updateState t = .ok r') : r' = r := by
  simp only [updateState, updateIndexes, bind_eq_ok, pure_eq_ok] at h
  obtain ⟨_, _, _, ⟨li, hli, el, hel, vi, hvi, rfl⟩, el', hel', rfl⟩ := h
  cases nextLiquidityIndex_again hlast hli
  cases nextVariableBorrowIndex_again hlast hvi
  have first : el = r.elToken := by
    obtain ⟨minted, he, hz⟩ := mintLinearInterest_eq_ok hel
    rw [he, hz rfl, ELToken.creditTreasury_zero]
  subst first
  have second : el' = r.elToken := by
    obtain ⟨minted, he, hz⟩ := mintToTreasury_eq_ok hel'
    rw [he, hz rfl (.inr hlast), ELToken.creditTreasury_zero]
  subst second
  have time : uint40 t = r.lastUpdateTimestamp := by rw [hlast, ht.uint40]
  rw [time]

theorem updateInterestRates_eq_ok {market balance added taken : Nat}
    (h : r.updateInterestRates t market balance added taken = .ok r') :
    ∃ rates, r.calculateInterestRates t market balance added taken = .ok rates ∧
      r' = { r with
        currentLiquidityRate := rates.liquidityRate
        currentStableBorrowRate := rates.stableBorrowRate
        currentVariableBorrowRate := rates.variableBorrowRate } := by
  simp only [updateInterestRates, bind_eq_ok, require_eq_ok, pure_eq_ok] at h
  obtain ⟨rates, hr, _, hl, _, hs, _, hv, rfl⟩ := h
  rw [uint128_of_le hl, uint128_of_le hs, uint128_of_le hv]
  exact ⟨rates, hr, rfl⟩

theorem cumulateToLiquidityIndex_eq_ok {total amount : Nat}
    (h : r.cumulateToLiquidityIndex total amount = .ok r') :
    ∃ index, r.liquidityIndex ≤ index ∧ r' = { r with liquidityIndex := index } := by
  simp only [cumulateToLiquidityIndex, bind_eq_ok, require_eq_ok, SafeMath.add_eq_ok,
    pure_eq_ok] at h
  obtain ⟨_, _, _, _, ratio, _, _, ⟨_, rfl⟩, index, hm, _, hmax, rfl⟩ := h
  rw [uint128_of_le hmax]
  exact ⟨index, le_rayMul_left (Nat.le_add_left _ _) hm, rfl⟩

end Reserve

end ElectroLend
