import ElectroLend.Pool.Changes
import ElectroLend.Properties.Withdrawal

namespace ElectroLend

open Outcome

namespace Reserve

variable {r r' : Reserve} {t t' index : Nat}

/-- What an amount of one at index one has grown to, without the bounds of a word. -/
def incomeAt (r : Reserve) (t : Nat) : Nat :=
  halfUp ((r.currentLiquidityRate * (t - r.lastUpdateTimestamp) / SECONDS_PER_YEAR + RAY) *
    r.liquidityIndex) RAY

theorem incomeAt_now (hlast : r.lastUpdateTimestamp = t) : r.incomeAt t = r.liquidityIndex := by
  rw [incomeAt, hlast, Nat.sub_self, Nat.mul_zero, Nat.zero_div, Nat.zero_add, Nat.mul_comm]
  exact HalfUp.mul_self_left _ RAY_pos

theorem incomeAt_of_interest {interest : Nat}
    (hl : calculateLinearInterest r.currentLiquidityRate r.lastUpdateTimestamp t = .ok interest)
    (hm : rayMul interest r.liquidityIndex = .ok index) : index = r.incomeAt t := by
  obtain ⟨_, rfl⟩ := calculateLinearInterest_eq_ok.mp hl
  obtain ⟨_, rfl⟩ := rayMul_eq_ok.mp hm
  rfl

theorem incomeAt_zero_rate (hz : r.currentLiquidityRate = 0) (t : Nat) :
    r.incomeAt t = r.liquidityIndex := by
  rw [incomeAt, hz, Nat.zero_mul, Nat.zero_div, Nat.zero_add, Nat.mul_comm]
  exact HalfUp.mul_self_left _ RAY_pos

theorem getNormalizedIncome_eq_incomeAt (ht : IsBlockTimestamp t)
    (h : r.getNormalizedIncome t = .ok index) : index = r.incomeAt t := by
  simp only [getNormalizedIncome, ht.uint40, ite_eq_ok, bind_eq_ok, Except.ok.injEq] at h
  obtain ⟨hlast, rfl⟩ | ⟨_, interest, hl, hm⟩ := h
  · exact (incomeAt_now hlast).symm
  · exact incomeAt_of_interest hl hm

theorem nextLiquidityIndex_eq_incomeAt (h : r.nextLiquidityIndex t = .ok index) :
    index = r.incomeAt t := by
  obtain ⟨hz, rfl⟩ | ⟨_, interest, hl, hm, _⟩ := nextLiquidityIndex_eq_ok h
  · exact (incomeAt_zero_rate hz t).symm
  · exact incomeAt_of_interest hl hm

theorem incomeAt_mono_time (r : Reserve) (h : t ≤ t') : r.incomeAt t ≤ r.incomeAt t' := by
  have seconds : t - r.lastUpdateTimestamp ≤ t' - r.lastUpdateTimestamp := by omega
  have interest := Nat.div_le_div_right (c := SECONDS_PER_YEAR)
    (Nat.mul_le_mul_left r.currentLiquidityRate seconds)
  exact HalfUp.mono (Nat.mul_le_mul_right _ (Nat.add_le_add_right interest RAY))

theorem incomeAt_mono_index (hrate : r'.currentLiquidityRate = r.currentLiquidityRate)
    (hlast : r'.lastUpdateTimestamp = r.lastUpdateTimestamp)
    (hindex : r.liquidityIndex ≤ r'.liquidityIndex) : r.incomeAt t ≤ r'.incomeAt t := by
  rw [incomeAt, incomeAt, hrate, hlast]
  exact HalfUp.mono (Nat.mul_le_mul_left _ hindex)

/-- Both indexes fit their type, and are at least one ray once the reserve is initialised. -/
structure InRange (r : Reserve) (t : Nat) : Prop where
  liquidityIndex_le : r.liquidityIndex ≤ uint128Max
  variableBorrowIndex_le : r.variableBorrowIndex ≤ uint128Max
  timestamp_le : r.lastUpdateTimestamp ≤ t
  liquidityIndex_ge : r.elTokenAddress ≠ 0 → RAY ≤ r.liquidityIndex
  variableBorrowIndex_ge : r.elTokenAddress ≠ 0 → RAY ≤ r.variableBorrowIndex

theorem InRange.same (h : r.InRange t) (same : r.SameInterest r') : r'.InRange t where
  liquidityIndex_le := same.liquidityIndex ▸ h.liquidityIndex_le
  variableBorrowIndex_le := same.variableBorrowIndex ▸ h.variableBorrowIndex_le
  timestamp_le := same.timestamp ▸ h.timestamp_le
  liquidityIndex_ge hne := by
    rw [same.liquidityIndex]
    exact h.liquidityIndex_ge (same.elToken ▸ hne)
  variableBorrowIndex_ge hne := by
    rw [same.variableBorrowIndex]
    exact h.variableBorrowIndex_ge (same.elToken ▸ hne)

theorem updateState_inRange (ht : IsBlockTimestamp t) (inv : r.InRange t)
    (h : r.updateState t = .ok r') : r'.InRange t := by
  obtain ⟨li, vi, minted, _, hli, hvi, rfl, _⟩ := updateState_eq_ok h
  refine ⟨?_, ?_, Nat.le_of_eq ht.uint40, ?_, ?_⟩
  · obtain ⟨_, rfl⟩ | ⟨_, _, _, _, hmax⟩ := nextLiquidityIndex_eq_ok hli
    · exact inv.liquidityIndex_le
    · exact hmax
  · obtain ⟨_, rfl⟩ | ⟨_, _, _, _, _, hmax⟩ := nextVariableBorrowIndex_eq_ok hvi
    · exact inv.variableBorrowIndex_le
    · exact hmax
  · intro hne
    exact (inv.liquidityIndex_ge hne).trans (le_nextLiquidityIndex hli)
  · intro hne
    exact (inv.variableBorrowIndex_ge hne).trans (le_nextVariableBorrowIndex hvi)

theorem cumulateToLiquidityIndex_exact {total amount : Nat}
    (h : r.cumulateToLiquidityIndex total amount = .ok r') :
    ∃ ratio index, rayMul (ratio + RAY) r.liquidityIndex = .ok index ∧ index ≤ uint128Max ∧
      r' = { r with liquidityIndex := index } := by
  simp only [cumulateToLiquidityIndex, bind_eq_ok, require_eq_ok, SafeMath.add_eq_ok,
    pure_eq_ok] at h
  obtain ⟨_, _, _, _, ratio, _, _, ⟨_, rfl⟩, index, hm, _, hmax, rfl⟩ := h
  rw [uint128_of_le hmax]
  exact ⟨ratio, index, hm, hmax, rfl⟩

theorem InRange.change (ht : IsBlockTimestamp t) (inv : r.InRange t) (h : r.Change t r') :
    r'.InRange t := by
  cases h with
  | kept same _ => exact inv.same same
  | accrued h => exact updateState_inRange ht inv h
  | rated now market balance added taken h =>
    obtain ⟨rates, _, rfl⟩ := updateInterestRates_eq_ok h
    exact ⟨inv.liquidityIndex_le, inv.variableBorrowIndex_le, inv.timestamp_le,
      inv.liquidityIndex_ge, inv.variableBorrowIndex_ge⟩
  | premium total amount h =>
    obtain ⟨ratio, index, hm, hmax, rfl⟩ := cumulateToLiquidityIndex_exact h
    have grown := le_rayMul_left (Nat.le_add_left _ _) hm
    exact ⟨hmax, inv.variableBorrowIndex_le, inv.timestamp_le,
      fun hne => (inv.liquidityIndex_ge hne).trans grown, inv.variableBorrowIndex_ge⟩
  | stableDebt same _ _ => exact inv.same same
  | listed _ liquidityIndex variableBorrowIndex timestamp _ =>
    have small : RAY ≤ uint128Max := by decide
    exact ⟨liquidityIndex.trans_le small, variableBorrowIndex.trans_le small,
      timestamp.trans_le inv.timestamp_le, fun _ => liquidityIndex.ge,
      fun _ => variableBorrowIndex.ge⟩

/-- Neither index goes down, nor does the income of the time. -/
structure Grows (t : Nat) (r : Reserve) (t' : Nat) (r' : Reserve) : Prop where
  initialised : r'.elTokenAddress ≠ 0
  liquidityIndex : r.liquidityIndex ≤ r'.liquidityIndex
  variableBorrowIndex : r.variableBorrowIndex ≤ r'.variableBorrowIndex
  income : r.incomeAt t ≤ r'.incomeAt t'

theorem Grows.refl (t : Nat) (hne : r.elTokenAddress ≠ 0) : Grows t r t r :=
  ⟨hne, Nat.le_refl _, Nat.le_refl _, Nat.le_refl _⟩

theorem Grows.trans {r'' : Reserve} {t'' : Nat} (h : Grows t r t' r') (h' : Grows t' r' t'' r'') :
    Grows t r t'' r'' where
  initialised := h'.initialised
  liquidityIndex := h.liquidityIndex.trans h'.liquidityIndex
  variableBorrowIndex := h.variableBorrowIndex.trans h'.variableBorrowIndex
  income := h.income.trans h'.income

theorem Grows.later (hne : r.elTokenAddress ≠ 0) (hle : t ≤ t') : Grows t r t' r :=
  ⟨hne, Nat.le_refl _, Nat.le_refl _, r.incomeAt_mono_time hle⟩

theorem Grows.same (hne : r.elTokenAddress ≠ 0) (same : r.SameInterest r') : Grows t r t r' where
  initialised := same.elToken ▸ hne
  liquidityIndex := same.liquidityIndex.ge
  variableBorrowIndex := same.variableBorrowIndex.ge
  income := incomeAt_mono_index same.liquidityRate same.timestamp same.liquidityIndex.ge

theorem Change.grows (ht : IsBlockTimestamp t) (hne : r.elTokenAddress ≠ 0) (h : r.Change t r') :
    Grows t r t r' := by
  cases h with
  | kept same _ => exact .same hne same
  | accrued h =>
    obtain ⟨li, vi, minted, _, hli, hvi, hr, _⟩ := updateState_eq_ok h
    have index : r'.liquidityIndex = li := by rw [hr]
    have now : r'.lastUpdateTimestamp = t := by
      rw [hr]
      exact ht.uint40
    refine ⟨by rwa [hr], index ▸ le_nextLiquidityIndex hli, ?_, ?_⟩
    · rw [hr]
      exact le_nextVariableBorrowIndex hvi
    · -- the stored index is the income of the moment, and the block accrues no more
      rw [incomeAt_now now, index, ← nextLiquidityIndex_eq_incomeAt hli]
  | rated now market balance added taken h =>
    obtain ⟨rates, _, hr⟩ := updateInterestRates_eq_ok h
    rw [ht.uint40] at now
    have index : r'.liquidityIndex = r.liquidityIndex := by rw [hr]
    have now' : r'.lastUpdateTimestamp = t := by rwa [hr]
    refine ⟨by rwa [hr], index.ge, by rw [hr], ?_⟩
    rw [incomeAt_now now, incomeAt_now now', index]
  | premium total amount h =>
    obtain ⟨ratio, index, hm, _, rfl⟩ := cumulateToLiquidityIndex_exact h
    have grown := le_rayMul_left (Nat.le_add_left _ _) hm
    exact ⟨hne, grown, Nat.le_refl _, incomeAt_mono_index rfl rfl grown⟩
  | stableDebt same _ _ => exact .same hne same
  | listed new => exact absurd new hne

/-- Each of the three writers of an index stores exactly what it has calculated: the cast to its
type loses nothing. -/
structure StoresExactly (r : Reserve) (t : Nat) : Prop where
  linear : ∀ r', r.updateState t = .ok r' → 0 < r.currentLiquidityRate →
    ∃ interest, calculateLinearInterest r.currentLiquidityRate r.lastUpdateTimestamp t =
        .ok interest ∧ rayMul interest r.liquidityIndex = .ok r'.liquidityIndex
  compounded : ∀ r', r.updateState t = .ok r' → 0 < r.currentLiquidityRate →
    r.variableDebtToken.scaledTotalSupply ≠ 0 →
    ∃ interest, calculateCompoundedInterest r.currentVariableBorrowRate r.lastUpdateTimestamp t =
        .ok interest ∧ rayMul interest r.variableBorrowIndex = .ok r'.variableBorrowIndex
  premium : ∀ total amount r', r.cumulateToLiquidityIndex total amount = .ok r' →
    ∃ amountInRay totalInRay ratio, wadToRay amount = .ok amountInRay ∧
      wadToRay total = .ok totalInRay ∧ rayDiv amountInRay totalInRay = .ok ratio ∧
      rayMul (ratio + RAY) r.liquidityIndex = .ok r'.liquidityIndex

theorem storesExactly (r : Reserve) (t : Nat) : r.StoresExactly t where
  linear r' h hpos := by
    obtain ⟨li, vi, minted, _, hli, _, rfl, _⟩ := updateState_eq_ok h
    obtain ⟨hz, _⟩ | ⟨_, interest, hl, hm, _⟩ := nextLiquidityIndex_eq_ok hli
    · omega
    · exact ⟨interest, hl, hm⟩
  compounded r' h hpos hsupply := by
    obtain ⟨li, vi, minted, _, _, hvi, rfl, _⟩ := updateState_eq_ok h
    obtain ⟨hz | hz, _⟩ | ⟨_, _, interest, hc, hm, _⟩ := nextVariableBorrowIndex_eq_ok hvi
    · omega
    · exact absurd hz hsupply
    · exact ⟨interest, hc, hm⟩
  premium total amount r' h := by
    simp only [cumulateToLiquidityIndex, bind_eq_ok, require_eq_ok, SafeMath.add_eq_ok,
      pure_eq_ok] at h
    obtain ⟨_, ha, _, htotal, ratio, hd, _, ⟨_, rfl⟩, index, hm, _, hmax, rfl⟩ := h
    rw [uint128_of_le hmax]
    exact ⟨_, _, ratio, ha, htotal, hd, hm⟩

/-- What a depositor can claim: the scaled balance at the normalized income. -/
def depositorsClaim (r : Reserve) (t : Nat) (user : Address) : Result Nat := do
  let income ← r.getNormalizedIncome t
  rayMul (r.elToken.scaledBalanceOf user) income

/-- Seen from a later state or time: the stored indexes, the income and the claims on balances that
nothing was done to are at least what they were. -/
structure NeverFalls (t : Nat) (r : Reserve) (t' : Nat) (r' : Reserve) : Prop where
  liquidityIndex : r.liquidityIndex ≤ r'.liquidityIndex
  variableBorrowIndex : r.variableBorrowIndex ≤ r'.variableBorrowIndex
  income : ∀ income income', r.getNormalizedIncome t = .ok income →
    r'.getNormalizedIncome t' = .ok income' → income ≤ income'
  claim : ∀ user claim claim',
    r'.elToken.scaledBalanceOf user = r.elToken.scaledBalanceOf user →
    r.depositorsClaim t user = .ok claim → r'.depositorsClaim t' user = .ok claim' → claim ≤ claim'

theorem Grows.neverFalls (ht : IsBlockTimestamp t) (ht' : IsBlockTimestamp t')
    (h : Grows t r t' r') : NeverFalls t r t' r' := by
  have income : ∀ income income', r.getNormalizedIncome t = .ok income →
      r'.getNormalizedIncome t' = .ok income' → income ≤ income' := by
    intro income income' hi hi'
    rw [getNormalizedIncome_eq_incomeAt ht hi, getNormalizedIncome_eq_incomeAt ht' hi']
    exact h.income
  refine ⟨h.liquidityIndex, h.variableBorrowIndex, income, ?_⟩
  intro user claim claim' hkept hclaim hclaim'
  simp only [depositorsClaim, bind_eq_ok] at hclaim hclaim'
  obtain ⟨i, hi, hm⟩ := hclaim
  obtain ⟨i', hi', hm'⟩ := hclaim'
  rw [hkept] at hm'
  obtain ⟨_, rfl⟩ := rayMul_eq_ok.mp hm
  obtain ⟨_, rfl⟩ := rayMul_eq_ok.mp hm'
  exact HalfUp.mono (Nat.mul_le_mul_left _ (income i i' hi hi'))

/-- What the source promises of the indexes of an initialised reserve. -/
structure IndexesInRange (r : Reserve) (t : Nat) : Prop where
  liquidityIndex : RAY ≤ r.liquidityIndex ∧ r.liquidityIndex ≤ uint128Max
  variableBorrowIndex : RAY ≤ r.variableBorrowIndex ∧ r.variableBorrowIndex ≤ uint128Max
  timestamp : r.lastUpdateTimestamp ≤ t

end Reserve

open LendingPool

variable {pool pool' : LendingPool} {t t' : Nat} {asset : Address} {rules : Rules}

theorem inRange_invariant : TimedInvariant fun t pool => ∀ a, (pool.reserves a).InRange t where
  later _ _ _ hle inv a := by
    obtain ⟨hl, hv, hlast, hl', hv'⟩ := inv a
    exact ⟨hl, hv, hlast.trans hle, hl', hv'⟩
  write _ _ _ _ ht inv h a := (inv a).change ht (h.change a)

theorem initialized_inRange (t : Nat) (this : Address) (tokens : Address → ERC20)
    (priceOracle lendingRateOracle : Address → Nat) (isContract : Address → Bool) (a : Address) :
    ((LendingPool.initialized this tokens priceOracle lendingRateOracle isContract).reserves
      a).InRange t :=
  ⟨Nat.zero_le _, Nat.zero_le _, Nat.zero_le _, fun hne => absurd rfl hne,
    fun hne => absurd rfl hne⟩

theorem Reachable.inRange (h : Reachable rules t pool) (a : Address) :
    (pool.reserves a).InRange t :=
  inRange_invariant.reachable initialized_inRange h a

theorem Visited.inRange (h : Visited rules t pool) (a : Address) :
    (pool.reserves a).InRange t :=
  inRange_invariant.visited initialized_inRange h a

theorem grows_invariant (t₀ : Nat) (r₀ : Reserve) (asset : Address) :
    TimedInvariant fun t pool => Reserve.Grows t₀ r₀ t (pool.reserves asset) where
  later _ _ _ hle grown := grown.trans (.later grown.initialised hle)
  write _ _ _ _ ht grown h := grown.trans ((h.change asset).grows ht grown.initialised)

/-- Over every run: the indexes of an initialised reserve stay in range and nothing of them is lost
in a cast, and from any visited state to a later state or time neither they nor the normalized
income go down. -/
theorem indexes_over_runs (visited : Visited .any t pool)
    (initialised : (pool.reserves asset).elTokenAddress ≠ 0) :
    (pool.reserves asset).IndexesInRange t ∧
      (∀ t', (pool.reserves asset).StoresExactly t') ∧
      ∀ t' pool', VisitedAfter .any t pool t' pool' →
        Reserve.NeverFalls t (pool.reserves asset) t' (pool'.reserves asset) := by
  have inv := visited.inRange asset
  have ht : IsBlockTimestamp t := by
    obtain ⟨_, _, _, _, ht, _⟩ := visited
    exact ht
  refine ⟨?_, fun t' => Reserve.storesExactly _ t', ?_⟩
  · exact ⟨⟨inv.liquidityIndex_ge initialised, inv.liquidityIndex_le⟩,
      ⟨inv.variableBorrowIndex_ge initialised, inv.variableBorrowIndex_le⟩, inv.timestamp_le⟩
  · intro t' pool' after
    have ht' : IsBlockTimestamp t' := by
      obtain ⟨_, _, _, _, ht', _⟩ := after
      exact ht'
    have grown := (grows_invariant t (pool.reserves asset) asset).visitedAfter after
      (.refl t initialised)
    exact grown.neverFalls ht ht'

/-- Another month later, and after another deposit of carol's. -/
theorem accruedMarket_indexes_grow :
    ∃ pool', VisitedAfter .any 2592003 accruedMarket 5184003 pool' ∧
      (accruedMarket.reserves Market.weth).IndexesInRange 2592003 ∧
      Reserve.NeverFalls 2592003 (accruedMarket.reserves Market.weth) 5184003
        (pool'.reserves Market.weth) := by
  have reachable : Reachable .any 2592003 accruedMarket :=
    Market.endState_reachable (by decide +kernel) (by decide +kernel)
  have deposited : (accruedMarket.deposit 5184003 Market.carol Market.weth (10 ^ 20)
      Market.carol).isOk = true := by decide +kernel
  obtain ⟨pool', hcall⟩ := exists_of_isOk deposited
  have run : Steps .any 5184003 accruedMarket pool' :=
    .call (.refl _) Market.carol (.deposit Market.weth (10 ^ 20) Market.carol) trivial hcall
  have after : VisitedAfter .any 2592003 accruedMarket 5184003 pool' :=
    ⟨2592003, accruedMarket, .now, by decide, by decide, .between run⟩
  obtain ⟨range, _, later⟩ :=
    @indexes_over_runs _ _ Market.weth (reachable.visited (by decide)) (by decide +kernel)
  exact ⟨pool', after, range, later _ _ after⟩

end ElectroLend
