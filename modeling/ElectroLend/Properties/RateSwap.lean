import ElectroLend.Pool.TouchesOnly
import ElectroLend.Properties.FullRepayment
import ElectroLend.Properties.SupplyConservation
import ElectroLend.Properties.VariableDebtMoves

namespace ElectroLend

open Outcome HalfUp

/-- In every visited state the scaled debts are part of their supply. -/
theorem Visited.scaled_le_supply {rules : Rules} {t : Nat} {pool : LendingPool}
    (visited : Visited rules t pool) (asset v : Address) :
    (pool.reserves asset).variableDebtToken.scaledBalanceOf v ≤
      (pool.reserves asset).variableDebtToken.scaledTotalSupply :=
  (visited.scaledTokens_conserved asset).variableDebtToken.le_total v

namespace LendingPool

variable {pool pool' : LendingPool} {t stable variableDebt rateMode : Nat} {asset u : Address}
  {mode : InterestRateMode}

/-- The debt tokens of a reserve after the debt `u` has of one mode moved to the other, at an
index. -/
def Swaps (t : Nat) (u : Address) (stable variableDebt index : Nat) (mode : InterestRateMode)
    (r r' : Reserve) : Prop :=
  (mode = .stable ∧ r.stableDebtToken.burn t u stable = .ok r'.stableDebtToken ∧
    ∃ first, r.variableDebtToken.mint u u stable index = .ok (first, r'.variableDebtToken)) ∨
  (mode = .variable ∧ r.variableDebtToken.burn u variableDebt index = .ok r'.variableDebtToken ∧
    ∃ first rate, r.stableDebtToken.mint t u u variableDebt rate = .ok (first, r'.stableDebtToken))

/-- What a swap of the rate mode does: an accrual, the move of the debt, and new rates. -/
structure SwapsRate (pool pool' : LendingPool) (t : Nat) (asset u : Address)
    (stable variableDebt : Nat) (mode : InterestRateMode) : Prop where
  stable_view : (pool.reserves asset).stableDebtBalanceOf t u = .ok stable
  variable_view : (pool.reserves asset).variableDebtBalanceOf t u = .ok variableDebt
  index : (pool.reserves asset).nextVariableBorrowIndex t =
    .ok (pool'.reserves asset).variableBorrowIndex
  timestamp : (pool'.reserves asset).lastUpdateTimestamp = uint40 t
  stableDebtTokenAddress :
    (pool'.reserves asset).stableDebtTokenAddress = (pool.reserves asset).stableDebtTokenAddress
  variableDebtTokenAddress : (pool'.reserves asset).variableDebtTokenAddress =
    (pool.reserves asset).variableDebtTokenAddress
  swaps : Swaps t u stable variableDebt (pool'.reserves asset).variableBorrowIndex mode
    (pool.reserves asset) (pool'.reserves asset)
  supply_fits : (pool'.reserves asset).variableDebtToken.totalSupply *
    (pool'.reserves asset).variableBorrowIndex + halfRAY ≤ uint256Max
  others : ∀ a, a ≠ asset → pool'.reserves a = pool.reserves a
  config : pool'.usersConfig = pool.usersConfig

theorem swapDebt_swaps {first : Bool} (hmode : mode ≠ .none)
    (h : pool.swapDebt t asset u stable variableDebt mode = .ok (first, pool')) :
    Swaps t u stable variableDebt (pool.reserves asset).variableBorrowIndex mode
        (pool.reserves asset) (pool'.reserves asset) ∧
      pool.SameIndexes pool' asset ∧
      (pool'.reserves asset).stableDebtTokenAddress =
        (pool.reserves asset).stableDebtTokenAddress ∧
      (pool'.reserves asset).variableDebtTokenAddress =
        (pool.reserves asset).variableDebtTokenAddress ∧
      (∀ a, a ≠ asset → pool'.reserves a = pool.reserves a) ∧
      pool'.usersConfig = pool.usersConfig := by
  simp only [swapDebt, ite_eq_ok, bind_eq_ok] at h
  obtain ⟨rfl, p₁, h₁, h₂⟩ | ⟨hne, p₁, h₁, h₂⟩ := h
  · obtain ⟨token, hburn, rfl⟩ := burnStableDebt_eq_ok h₁
    obtain ⟨token', hmint, rfl⟩ := mintVariableDebt_eq_ok h₂
    refine ⟨.inl ⟨rfl, by simpa using hburn, first, by simpa using hmint⟩, ?_⟩
    refine ⟨⟨by simp, by simp, by simp⟩, by simp, by simp, ?_, rfl⟩
    intro a ha
    simp [ha]
  · obtain ⟨token, hburn, rfl⟩ := burnVariableDebt_eq_ok h₁
    obtain ⟨token', hmint, rfl⟩ := mintStableDebt_eq_ok h₂
    have hvariable : mode = .variable := by
      cases mode with
      | none => exact absurd rfl hmode
      | stable => exact absurd rfl hne
      | «variable» => rfl
    refine ⟨.inr ⟨hvariable, by simpa using hburn, first, _, by simpa using hmint⟩, ?_⟩
    refine ⟨⟨by simp, by simp, by simp⟩, by simp, by simp, ?_, rfl⟩
    intro a ha
    simp [ha]

theorem updateInterestRates_supply_fits {elToken : Address} {added taken : Nat}
    (h : pool.updateInterestRates t asset elToken added taken = .ok pool') :
    (pool.reserves asset).variableDebtToken.totalSupply *
      (pool.reserves asset).variableBorrowIndex + halfRAY ≤ uint256Max := by
  obtain ⟨r, hr, _⟩ := updateInterestRates_eq_ok h
  obtain ⟨rates, hrates, _⟩ := Reserve.updateInterestRates_eq_ok hr
  simp only [Reserve.calculateInterestRates, bind_eq_ok] at hrates
  obtain ⟨_, _, total, htotal, _⟩ := hrates
  exact (rayMul_eq_ok.mp htotal).1

theorem swapBorrowRateMode_swapsRate
    (h : pool.swapBorrowRateMode t u asset rateMode = .ok pool') :
    ∃ mode stable variableDebt, InterestRateMode.fromNat rateMode = .ok mode ∧
      SwapsRate pool pool' t asset u stable variableDebt mode := by
  obtain ⟨stable, variableDebt, mode, p₁, _, p₂, hs, hv, hmode, hvalid, h₁, h₂, h₃⟩ :=
    swapBorrowRateMode_eq_ok h
  have hsome : mode ≠ .none := by
    rintro rfl
    simp [validateSwapRateMode] at hvalid
  obtain ⟨swaps, indexes, hstable, hvariable, others, config⟩ := swapDebt_swaps hsome h₂
  have same := updateInterestRates_sameDebts h₃
  have fits := updateInterestRates_supply_fits h₃
  have rates := updateInterestRates_touches h₃
  have accrued := updateState_touches h₁
  obtain ⟨r, hr, rfl⟩ := updateState_eq_ok h₁
  obtain ⟨li, vi, _, _, _, hvi, rfl, _⟩ := Reserve.updateState_eq_ok hr
  have hconfig : pool'.usersConfig = p₂.usersConfig := by
    obtain ⟨_, _, rfl⟩ := updateInterestRates_eq_ok h₃
    rfl
  have hindex : (pool'.reserves asset).variableBorrowIndex = vi := by
    rw [same.indexes.variableBorrowIndex, indexes.variableBorrowIndex]
    simp
  refine ⟨mode, stable, variableDebt, hmode, hs, hv, hindex ▸ hvi, ?_, ?_, ?_, ?_, ?_, ?_, ?_⟩
  · rw [same.indexes.timestamp, indexes.timestamp]
    simp
  · rw [same.stableDebtTokenAddress, hstable]
    simp
  · rw [same.variableDebtTokenAddress, hvariable]
    simp
  · rw [hindex]
    unfold Swaps at swaps ⊢
    rw [same.stableDebtToken, same.variableDebtToken]
    simpa using swaps
  · rw [same.variableDebtToken, same.indexes.variableBorrowIndex]
    exact fits
  · intro a ha
    exact (rates.reserves a ha).trans ((others a ha).trans (accrued.reserves a ha))
  · rw [hconfig, config]
    rfl

theorem Swaps.others {index : Nat} {r r' : Reserve} {v : Address}
    (h : Swaps t u stable variableDebt index mode r r') (hv : v ≠ u) :
    r.stableDebtToken.SameAccount r'.stableDebtToken v ∧
      r'.variableDebtToken.balances v = r.variableDebtToken.balances v := by
  obtain ⟨_, hburn, _, hmint⟩ | ⟨_, hburn, _, _, hmint⟩ := h
  · obtain ⟨_, _, _, hbals, _⟩ := VariableDebtToken.mint_eq_ok hmint
    refine ⟨StableDebtToken.burn_sameAccount hburn hv, ?_⟩
    rw [hbals, Function.update_of_ne hv]
  · obtain ⟨_, _, _, _, _, hbals, _⟩ := VariableDebtToken.burn_eq_ok hburn
    refine ⟨StableDebtToken.mint_sameAccount hmint hv, ?_⟩
    rw [hbals, Function.update_of_ne hv]

namespace SwapsRate

theorem stableDebtBalanceOf (swap : SwapsRate pool pool' t asset u stable variableDebt mode)
    (v : Address) :
    (pool.reserves asset).stableDebtBalanceOf t v =
        (pool.reserves asset).stableDebtToken.balanceOf t v ∧
      (pool'.reserves asset).stableDebtBalanceOf t v =
        (pool'.reserves asset).stableDebtToken.balanceOf t v := by
  have listed := (Reserve.stableDebtBalanceOf_eq_ok.mp swap.stable_view).1
  simp only [Reserve.stableDebtBalanceOf, swap.stableDebtTokenAddress, requireContract,
    require_of listed, ok_bind, and_self]

theorem variableDebtBalanceOf (swap : SwapsRate pool pool' t asset u stable variableDebt mode)
    (ht : IsBlockTimestamp t)
    (accrues : 0 < (pool.reserves asset).currentLiquidityRate ∨
      (pool.reserves asset).lastUpdateTimestamp = t)
    (held : ∀ v, (pool.reserves asset).variableDebtToken.scaledBalanceOf v ≤
      (pool.reserves asset).variableDebtToken.scaledTotalSupply) (v : Address) :
    (pool.reserves asset).variableDebtBalanceOf t v =
        (pool.reserves asset).variableDebtToken.debtAt (pool'.reserves asset).variableBorrowIndex
          v ∧
      (pool'.reserves asset).variableDebtBalanceOf t v =
        (pool'.reserves asset).variableDebtToken.debtAt (pool'.reserves asset).variableBorrowIndex
          v := by
  have listed := Reserve.variableDebtBalanceOf_listed swap.variable_view
  have listed' : (pool'.reserves asset).variableDebtTokenAddress ≠ 0 := by
    rw [swap.variableDebtTokenAddress]
    exact listed
  exact ⟨Reserve.variableDebtBalanceOf_next ht accrues listed (held v) swap.index,
    Reserve.variableDebtBalanceOf_at listed'
      fun _ => Reserve.getNormalizedDebt_now swap.timestamp⟩

theorem debts_others (swap : SwapsRate pool pool' t asset u stable variableDebt mode)
    (ht : IsBlockTimestamp t)
    (accrues : 0 < (pool.reserves asset).currentLiquidityRate ∨
      (pool.reserves asset).lastUpdateTimestamp = t)
    (held : ∀ v, (pool.reserves asset).variableDebtToken.scaledBalanceOf v ≤
      (pool.reserves asset).variableDebtToken.scaledTotalSupply) {a v : Address}
    (hne : a ≠ asset ∨ v ≠ u) (mode' : InterestRateMode) :
    (pool'.reserves a).debtUnits mode' v = (pool.reserves a).debtUnits mode' v ∧
      pool'.debtOf t a mode' v = pool.debtOf t a mode' v := by
  unfold Reserve.debtUnits debtOf
  by_cases ha : a = asset
  · subst ha
    obtain ⟨same, kept⟩ := swap.swaps.others (hne.resolve_left (fun hna => hna rfl))
    obtain ⟨stable_before, stable_after⟩ := swap.stableDebtBalanceOf v
    obtain ⟨variable_before, variable_after⟩ := swap.variableDebtBalanceOf ht accrues held v
    have scaled : (pool'.reserves a).variableDebtToken.scaledBalanceOf v =
        (pool.reserves a).variableDebtToken.scaledBalanceOf v := kept
    rw [stable_before, stable_after, variable_before, variable_after, same.balanceOf,
      VariableDebtToken.debtAt, VariableDebtToken.debtAt, scaled,
      StableDebtToken.principalBalanceOf, StableDebtToken.principalBalanceOf, same.principal]
    exact ⟨rfl, rfl⟩
  · rw [swap.others a ha]
    exact ⟨rfl, rfl⟩

end SwapsRate

/-- A variable debt reads while its token's whole supply does. -/
theorem debtAt_of_supply {token : VariableDebtToken} {index : Nat}
    (held : token.balances u ≤ token.totalSupply)
    (fits : token.totalSupply * index + halfRAY ≤ uint256Max) :
    ∃ debt, token.debtAt index u = .ok debt := by
  have hmono := Nat.mul_le_mul_right index held
  exact ⟨_, VariableDebtToken.debtAt_eq_ok.mpr ⟨by omega, rfl⟩⟩

end LendingPool

open LendingPool

/-- In whatever state a run visits, a swap of the rate mode clears the debt of the given mode and keeps
the sum of both: up to the rounding of the scaled units, and exactly when it becomes stable, wherever
that can be read. Nobody else's debt and nobody's bitmap change. -/
theorem swap_keeps_debt {rules : Rules} {since t : Nat} (ht : IsBlockTimestamp t)
    {pool pool' : LendingPool} {asset u : Address} {rateMode : Nat}
    (visited : Visited rules since pool) (hi : RAY ≤ (pool.reserves asset).variableBorrowIndex)
    (accrues : 0 < (pool.reserves asset).currentLiquidityRate ∨
      (pool.reserves asset).lastUpdateTimestamp = t)
    (h : pool.swapBorrowRateMode t u asset rateMode = .ok pool') :
    ∃ mode stable variableDebt, InterestRateMode.fromNat rateMode = .ok mode ∧
      pool.debtOf t asset .stable u = .ok stable ∧
      pool.debtOf t asset .variable u = .ok variableDebt ∧
      (pool'.reserves asset).debtUnits mode u = 0 ∧
      ((mode = .stable ∧ pool'.debtOf t asset .stable u = .ok 0 ∧
          ∃ after, pool'.debtOf t asset .variable u = .ok after ∧
            Within ((pool'.reserves asset).variableBorrowIndex / (2 * RAY) + 1) after
              (stable + variableDebt)) ∨
        (mode = .variable ∧ pool'.debtOf t asset .variable u = .ok 0 ∧
          ReadsAs (pool'.debtOf t asset .stable u) (stable + variableDebt))) ∧
      (∀ a v, a ≠ asset ∨ v ≠ u → ∀ mode',
        (pool'.reserves a).debtUnits mode' v = (pool.reserves a).debtUnits mode' v ∧
          pool'.debtOf t a mode' v = pool.debtOf t a mode' v) ∧
      pool'.usersConfig = pool.usersConfig := by
  obtain ⟨mode, stable, variableDebt, hmode, swap⟩ := swapBorrowRateMode_swapsRate h
  have held := visited.scaled_le_supply asset
  have stable_reads := swap.stableDebtBalanceOf
  have variable_reads := swap.variableDebtBalanceOf ht accrues held
  have hindex := hi.trans (Reserve.le_nextVariableBorrowIndex swap.index)
  have view := (stable_reads u).1.symm.trans swap.stable_view
  have whole := (variable_reads u).1.symm.trans swap.variable_view
  have others : ∀ a v, a ≠ asset ∨ v ≠ u → ∀ mode',
      (pool'.reserves a).debtUnits mode' v = (pool.reserves a).debtUnits mode' v ∧
        pool'.debtOf t a mode' v = pool.debtOf t a mode' v :=
    fun _ _ hne mode' => swap.debts_others ht accrues held hne mode'
  obtain ⟨rfl, hburn, _, hmint⟩ | ⟨rfl, hburn, _, _, hmint⟩ := swap.swaps
  · -- to the variable rate: the new supply was read for the rates, so the new debt reads too
    obtain ⟨_, cleared⟩ := StableDebtToken.balanceOf_after_burn ht view hburn
    rw [Nat.sub_self] at cleared
    obtain ⟨_, _, _, hbals, hsupply, _⟩ := VariableDebtToken.mint_eq_ok hmint
    have held' : (pool'.reserves asset).variableDebtToken.balances u ≤
        (pool'.reserves asset).variableDebtToken.totalSupply := by
      rw [hbals, hsupply, Function.update_self]
      exact Nat.add_le_add_right (held u) _
    obtain ⟨after, hafter⟩ := debtAt_of_supply held' swap.supply_fits
    obtain ⟨before, hbefore, moved⟩ := VariableDebtToken.mint_moves_debt hmint hafter
    cases ok_unique whole hbefore
    rw [Nat.add_comm variableDebt] at moved
    exact ⟨.stable, stable, variableDebt, hmode, swap.stable_view, swap.variable_view,
      StableDebtToken.balanceOf_eq_zero_iff.mp cleared,
      .inl ⟨rfl, (stable_reads u).2.trans cleared, after, (variable_reads u).2.trans hafter, moved⟩,
      others, swap.config⟩
  · -- to the stable rate: both the burn and the mint are exact
    have cleared := VariableDebtToken.burn_whole_debt hindex hburn whole
    have none : (pool'.reserves asset).variableDebtToken.debtAt
        (pool'.reserves asset).variableBorrowIndex u = .ok 0 := by
      rw [VariableDebtToken.debtAt, VariableDebtToken.scaledBalanceOf, cleared, rayMul_zero_left]
    obtain ⟨balance, _, hbalance, _, reads, _⟩ := StableDebtToken.mint_reads ht hmint
    cases ok_unique view hbalance
    have after := rayMul_ray_readsAs (stable + variableDebt)
    rw [← reads, ← (stable_reads u).2] at after
    exact ⟨.variable, stable, variableDebt, hmode, swap.stable_view, swap.variable_view, cleared,
      .inr ⟨rfl, (variable_reads u).2.trans none, after⟩, others, swap.config⟩

/-- A month later bob's debt becomes stable. -/
theorem bob_swaps_to_stable :
    ∃ pool' stable variableDebt,
      borrowedMarket.swapBorrowRateMode 2592003 Market.bob Market.weth 2 = .ok pool' ∧
      borrowedMarket.debtOf 2592003 Market.weth .stable Market.bob = .ok stable ∧
      borrowedMarket.debtOf 2592003 Market.weth .variable Market.bob = .ok variableDebt ∧
      (pool'.reserves Market.weth).variableDebtToken.scaledBalanceOf Market.bob = 0 ∧
      ReadsAs (pool'.debtOf 2592003 Market.weth .stable Market.bob) (stable + variableDebt) := by
  have reach : Reachable .any 3 borrowedMarket :=
    Market.endState_reachable (by decide +kernel) (by decide +kernel)
  have visited : Visited .any 3 borrowedMarket :=
    reach.visited (by unfold IsBlockTimestamp; omega)
  have hi : RAY ≤ (borrowedMarket.reserves Market.weth).variableBorrowIndex := by decide +kernel
  have accrues : 0 < (borrowedMarket.reserves Market.weth).currentLiquidityRate := by
    decide +kernel
  have success : (borrowedMarket.swapBorrowRateMode 2592003 Market.bob Market.weth 2).isOk =
      true := by decide +kernel
  obtain ⟨pool', hswap⟩ := exists_of_isOk success
  have ht : IsBlockTimestamp 2592003 := by unfold IsBlockTimestamp; omega
  obtain ⟨mode, stable, variableDebt, hmode, hs, hv, cleared, moved, _⟩ :=
    swap_keeps_debt ht visited hi (.inl accrues) hswap
  cases Except.ok.inj hmode
  obtain ⟨hstable, _⟩ | ⟨_, _, reads⟩ := moved
  · cases hstable
  · exact ⟨pool', stable, variableDebt, hswap, hs, hv, cleared, reads⟩

/-- Plenty of every asset, and no interest in any market. -/
def interestFree : LendingPool :=
  LendingPool.initialized Market.poolAddress
    (fun _ => { Market.fundedToken with balances := fun _ => 10 ^ 52 }) (fun _ => 10 ^ 18)
    (fun _ => 0) (fun _ => true)

def interestFreeListing (asset : Address) : LendingPool.InitReserveInput :=
  { Market.listing asset with
    interestRateStrategy := { Market.strategy with
      variableRateSlope1 := 0
      variableRateSlope2 := 0
      stableRateSlope1 := 0
      stableRateSlope2 := 0 } }

/-- Bob borrows at the stable rate and repays one unit, by which the stable supply is forgotten, and
then borrows as much again at the variable rate. -/
def forgottenLoan : List TimedCall :=
  [(0, Market.poolAddress, .listReserve (interestFreeListing Market.weth)),
    (0, Market.poolAddress, .setConfiguration Market.weth (Market.configuration 0)),
    (0, Market.poolAddress, .listReserve (interestFreeListing Market.dai)),
    (0, Market.poolAddress, .setConfiguration Market.dai (Market.configuration 0))] ++
  List.replicate 5 (0, Market.carol, .deposit Market.weth (10 ^ 50) Market.carol) ++
  List.replicate 3 (0, Market.bob, .deposit Market.dai (10 ^ 50) Market.bob) ++
  [(0, Market.bob, .borrow Market.weth (10 ^ 50 + 1) 1 Market.bob),
    (0, Market.bob, .repay Market.weth 1 1 Market.bob),
    (0, Market.bob, .borrow Market.weth (10 ^ 50) 2 Market.bob)]

/-- When he makes the variable debt stable, his whole debt becomes too large to be read. -/
theorem forgottenLoan_swap_unreadable :
    ∃ pool pool', Reachable .any 0 pool ∧
      RAY ≤ (pool.reserves Market.weth).liquidityIndex ∧
      RAY ≤ (pool.reserves Market.weth).variableBorrowIndex ∧
      (pool.reserves Market.weth).lastUpdateTimestamp = 0 ∧
      pool.debtOf 0 Market.weth .stable Market.bob = .ok (10 ^ 50) ∧
      pool.debtOf 0 Market.weth .variable Market.bob = .ok (10 ^ 50) ∧
      pool.swapBorrowRateMode 0 Market.bob Market.weth 2 = .ok pool' ∧
      ∀ debt, pool'.debtOf 0 Market.weth .stable Market.bob ≠ .ok debt := by
  have success : succeedsWith (runScript interestFree forgottenLoan) (fun pool =>
      decide (RAY ≤ (pool.reserves Market.weth).liquidityIndex ∧
        RAY ≤ (pool.reserves Market.weth).variableBorrowIndex ∧
        (pool.reserves Market.weth).lastUpdateTimestamp = 0 ∧
        pool.debtOf 0 Market.weth .stable Market.bob = .ok (10 ^ 50) ∧
        pool.debtOf 0 Market.weth .variable Market.bob = .ok (10 ^ 50)) &&
      succeedsWith (pool.swapBorrowRateMode 0 Market.bob Market.weth 2) (fun pool' =>
        decide (pool'.debtOf 0 Market.weth .stable Market.bob =
          .error .mathMultiplicationOverflow))) = true := by decide +kernel
  obtain ⟨pool, hscript, hchecks⟩ := succeedsWith_iff.mp success
  obtain ⟨hstate, hswaps⟩ := Bool.and_eq_true_iff.mp hchecks
  obtain ⟨hliquidity, hvariable, htimestamp, hs, hv⟩ := of_decide_eq_true hstate
  obtain ⟨pool', hswap, hafter⟩ := succeedsWith_iff.mp hswaps
  have start : Reachable .any 0 interestFree := .start 0 _ _ _ _ _
  refine ⟨pool, pool', start.script rfl hscript, hliquidity, hvariable, htimestamp, hs, hv, hswap,
    fun debt hdebt => ?_⟩
  rw [of_decide_eq_true hafter] at hdebt
  cases hdebt

end ElectroLend
