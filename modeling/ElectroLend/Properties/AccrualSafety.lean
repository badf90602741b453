import ElectroLend.Pool.Changes
import ElectroLend.Properties.Rebalance

namespace ElectroLend

open Outcome

/-- No checked subtraction of the computation fails. -/
abbrev NoUnderflow {α : Type} (x : Result α) : Prop := Avoids .safeMathSubtractionOverflow x

theorem noUnderflow_add (a b : Nat) : NoUnderflow (SafeMath.add a b) :=
  avoids_ite (fun _ => avoids_ok _ _) (fun _ h => by cases h)

theorem noUnderflow_mul (a b : Nat) : NoUnderflow (SafeMath.mul a b) :=
  avoids_ite (fun _ => avoids_ok _ _) (fun _ h => by cases h)

theorem noUnderflow_sub {a b : Nat} (hle : b ≤ a) (e : Errors) : NoUnderflow (SafeMath.sub a b e) :=
  avoids_ite (fun _ => avoids_ok _ _) (fun hlt => absurd hle hlt)

theorem noUnderflow_rayMul (a b : Nat) : NoUnderflow (rayMul a b) := by
  refine avoids_ite (fun _ => avoids_ok _ _) (fun _ => ?_)
  exact avoids_bind (avoids_require (by decide)) (fun _ _ => avoids_ok _ _)

theorem noUnderflow_rayDiv (a b : Nat) : NoUnderflow (rayDiv a b) := by
  refine avoids_bind (avoids_require (by decide)) (fun _ _ => ?_)
  exact avoids_bind (avoids_require (by decide)) (fun _ _ => avoids_ok _ _)

theorem noUnderflow_percentMul (a p : Nat) : NoUnderflow (percentMul a p) := by
  refine avoids_ite (fun _ => avoids_ok _ _) (fun _ => ?_)
  exact avoids_bind (avoids_require (by decide)) (fun _ _ => avoids_ok _ _)

theorem noUnderflow_linear {rate last now : Nat} (hle : last ≤ now) :
    NoUnderflow (calculateLinearInterest rate last now) := by
  refine avoids_bind (noUnderflow_sub hle _) (fun _ _ => ?_)
  exact avoids_bind (noUnderflow_mul _ _) (fun _ _ => noUnderflow_add _ _)

theorem noUnderflow_compounded {rate last now : Nat} (hle : last ≤ now) :
    NoUnderflow (calculateCompoundedInterest rate last now) := by
  refine avoids_bind (noUnderflow_sub hle _) (fun _ _ => avoids_ite (fun _ => avoids_ok _ _) ?_)
  intro _
  refine avoids_bind (noUnderflow_rayMul _ _) (fun _ _ => ?_)
  refine avoids_bind (noUnderflow_rayMul _ _) (fun _ _ => ?_)
  refine avoids_bind (noUnderflow_mul _ _) (fun _ _ => ?_)
  refine avoids_bind (noUnderflow_mul _ _) (fun _ _ => ?_)
  refine avoids_bind (noUnderflow_mul _ _) (fun _ _ => ?_)
  refine avoids_bind (noUnderflow_mul _ _) (fun _ _ => ?_)
  refine avoids_bind (noUnderflow_mul _ _) (fun _ _ => ?_)
  refine avoids_bind (noUnderflow_add _ _) (fun _ _ => ?_)
  exact avoids_bind (noUnderflow_add _ _) (fun _ _ => noUnderflow_add _ _)

theorem noUnderflow_mintToTreasury (token : ELToken) (amount index : Nat) :
    NoUnderflow (token.mintToTreasury amount index) := by
  refine avoids_ite (fun _ => avoids_ok _ _) (fun _ => ?_)
  refine avoids_bind (noUnderflow_rayDiv _ _) (fun _ _ => ?_)
  refine avoids_bind ?_ (fun _ _ => avoids_ok _ _)
  refine avoids_bind (avoids_require (by decide)) (fun _ _ => ?_)
  refine avoids_bind (noUnderflow_add _ _) (fun _ _ => ?_)
  exact avoids_bind (noUnderflow_add _ _) (fun _ _ => avoids_ok _ _)

namespace Reserve

variable {r r' : Reserve} {t t' : Nat}

/-- The supply of stable debt was last written no later than the reserve was last accrued. -/
structure ClocksOrdered (r : Reserve) (t : Nat) : Prop where
  supply_le : r.stableDebtToken.totalSupplyTimestamp ≤ r.lastUpdateTimestamp
  updated_le : r.lastUpdateTimestamp ≤ t

theorem ClocksOrdered.later (h : r.ClocksOrdered t) (hle : t ≤ t') : r.ClocksOrdered t' :=
  ⟨h.supply_le, h.updated_le.trans hle⟩

theorem ClocksOrdered.change (ht : IsBlockTimestamp t) (inv : r.ClocksOrdered t)
    (h : r.Change t r') : r'.ClocksOrdered t := by
  obtain ⟨supply_le, updated_le⟩ := inv
  cases h with
  | kept same supply => exact ⟨by rwa [supply, same.timestamp], same.timestamp.trans_le updated_le⟩
  | accrued h =>
    obtain ⟨_, _, _, _, _, _, rfl, _⟩ := updateState_eq_ok h
    exact ⟨(supply_le.trans updated_le).trans ht.uint40.ge, ht.uint40.le⟩
  | rated _ _ _ _ _ h =>
    obtain ⟨_, _, rfl⟩ := updateInterestRates_eq_ok h
    exact ⟨supply_le, updated_le⟩
  | premium _ _ h =>
    obtain ⟨_, _, rfl⟩ := cumulateToLiquidityIndex_eq_ok h
    exact ⟨supply_le, updated_le⟩
  | stableDebt same now supply =>
    exact ⟨by rw [supply, same.timestamp, now], same.timestamp.trans_le updated_le⟩
  | listed _ _ _ timestamp supply =>
    exact ⟨supply.trans_le (Nat.zero_le _), timestamp.trans_le updated_le⟩

theorem stable_accrued_nonneg {token : StableDebtToken} {last now principal stable avg updated
    cumulated previous : Nat} (hle : last ≤ now)
    (hs : token.getSupplyData now = .ok (principal, stable, avg, updated))
    (hc : calculateCompoundedInterest avg updated last = .ok cumulated)
    (hm : rayMul principal cumulated = .ok previous) : previous ≤ stable := by
  simp only [StableDebtToken.getSupplyData, StableDebtToken.calcTotalSupply, bind_eq_ok, ite_eq_ok,
    pure_eq_ok, Prod.mk.injEq, Except.ok.injEq] at hs
  obtain ⟨_, ⟨hz, rfl⟩ | ⟨_, c, hc', hm'⟩, rfl, rfl, rfl, rfl⟩ := hs
  · rw [hz, rayMul_zero_left] at hm
    exact (Except.ok.inj hm).ge
  · have grown := calculateCompoundedInterest_mono hle hc hc'
    obtain ⟨_, rfl⟩ := rayMul_eq_ok.mp hm
    obtain ⟨_, rfl⟩ := rayMul_eq_ok.mp hm'
    exact HalfUp.mono (Nat.mul_le_mul_left _ grown)

/-- What each checked subtraction of `updateState` relies on at a time, and that none of them fails.
The debts are those that `_mintToTreasury` compares, on the reserve `r'` with the new indexes. -/
structure AccruesSafely (r : Reserve) (t : Nat) : Prop where
  supply_le : r.stableDebtToken.totalSupplyTimestamp ≤ r.lastUpdateTimestamp
  updated_le : r.lastUpdateTimestamp ≤ t
  interest_ge : ∀ interest, calculateLinearInterest r.currentLiquidityRate r.lastUpdateTimestamp t =
    .ok interest → RAY ≤ interest
  accrued_nonneg : ∀ r' principal stable avg updated previousVariable currentVariable cumulated
    previousStable, r.updateIndexes t = .ok r' →
    r'.stableDebtToken.getSupplyData t = .ok (principal, stable, avg, updated) →
    rayMul r'.variableDebtToken.scaledTotalSupply r.variableBorrowIndex = .ok previousVariable →
    rayMul r'.variableDebtToken.scaledTotalSupply r'.variableBorrowIndex = .ok currentVariable →
    calculateCompoundedInterest avg updated r.lastUpdateTimestamp = .ok cumulated →
    rayMul principal cumulated = .ok previousStable →
    previousVariable + previousStable ≤ currentVariable + stable
  no_underflow : NoUnderflow (r.updateState t)

theorem updateIndexes_eq_ok (h : r.updateIndexes t = .ok r') :
    ∃ liquidityIndex elToken variableBorrowIndex, r.nextVariableBorrowIndex t =
        .ok variableBorrowIndex ∧
      r' = { r with
        elToken, liquidityIndex, variableBorrowIndex, lastUpdateTimestamp := uint40 t } := by
  simp only [updateIndexes, bind_eq_ok, pure_eq_ok] at h
  obtain ⟨li, _, el, _, vi, hvi, rfl⟩ := h
  exact ⟨li, el, vi, hvi, rfl⟩

theorem debt_accrued_nonneg {principal stable avg updated previousVariable currentVariable cumulated
    previousStable : Nat} (hle : r.lastUpdateTimestamp ≤ t) (hr : r.updateIndexes t = .ok r')
    (hs : r'.stableDebtToken.getSupplyData t = .ok (principal, stable, avg, updated))
    (hprev : rayMul r'.variableDebtToken.scaledTotalSupply r.variableBorrowIndex =
      .ok previousVariable)
    (hcur : rayMul r'.variableDebtToken.scaledTotalSupply r'.variableBorrowIndex =
      .ok currentVariable)
    (hc : calculateCompoundedInterest avg updated r.lastUpdateTimestamp = .ok cumulated)
    (hm : rayMul principal cumulated = .ok previousStable) :
    previousVariable + previousStable ≤ currentVariable + stable := by
  have stableGrown := stable_accrued_nonneg hle hs hc hm
  obtain ⟨li, el, vi, hvi, rfl⟩ := updateIndexes_eq_ok hr
  have variableGrown : previousVariable ≤ currentVariable := by
    obtain ⟨_, rfl⟩ := rayMul_eq_ok.mp hprev
    obtain ⟨_, rfl⟩ := rayMul_eq_ok.mp hcur
    exact HalfUp.mono (Nat.mul_le_mul_left _ (le_nextVariableBorrowIndex hvi))
  omega

theorem noUnderflow_updateIndexes (hle : r.lastUpdateTimestamp ≤ t) :
    NoUnderflow (r.updateIndexes t) := by
  refine avoids_bind ?_ (fun li _ => avoids_bind ?_ (fun _ _ => avoids_bind ?_ (fun _ _ =>
    avoids_ok _ _)))
  · refine avoids_ite (fun _ => ?_) (fun _ => avoids_ok _ _)
    refine avoids_bind (noUnderflow_linear hle) (fun _ _ => ?_)
    refine avoids_bind (noUnderflow_rayMul _ _) (fun _ _ => ?_)
    exact avoids_bind (avoids_require (by decide)) (fun _ _ => avoids_ok _ _)
  · -- the interest that is minted is measured from one ray
    refine avoids_ite (fun _ => ?_) (fun _ => avoids_ok _ _)
    refine avoids_bind (noUnderflow_linear hle) (fun interest hinterest => ?_)
    refine avoids_bind (noUnderflow_sub (calculateLinearInterest_ge hinterest) _) (fun _ _ => ?_)
    exact noUnderflow_mintToTreasury _ _ _
  · refine avoids_ite (fun _ => ?_) (fun _ => avoids_ok _ _)
    refine avoids_bind (noUnderflow_compounded hle) (fun _ _ => ?_)
    refine avoids_bind (noUnderflow_rayMul _ _) (fun _ _ => ?_)
    exact avoids_bind (avoids_require (by decide)) (fun _ _ => avoids_ok _ _)

theorem noUnderflow_getSupplyData {token : StableDebtToken}
    (hle : token.totalSupplyTimestamp ≤ t) : NoUnderflow (token.getSupplyData t) := by
  refine avoids_bind ?_ (fun _ _ => avoids_ok _ _)
  refine avoids_ite (fun _ => avoids_ok _ _) (fun _ => ?_)
  exact avoids_bind (noUnderflow_compounded hle) (fun _ _ => noUnderflow_rayMul _ _)

theorem noUnderflow_updateState (inv : r.ClocksOrdered t) : NoUnderflow (r.updateState t) := by
  obtain ⟨supply_le, updated_le⟩ := inv
  refine avoids_bind (avoids_require (by decide)) (fun _ _ => ?_)
  refine avoids_bind (noUnderflow_updateIndexes updated_le) (fun r' hr => ?_)
  refine avoids_bind ?_ (fun _ _ => avoids_ok _ _)
  have kept : r'.stableDebtToken = r.stableDebtToken := by
    obtain ⟨_, _, _, _, rfl⟩ := updateIndexes_eq_ok hr
    rfl
  refine avoids_ite (fun _ => avoids_ok _ _) (fun _ => ?_)
  refine avoids_bind (noUnderflow_getSupplyData (by rw [kept]; omega)) (fun supply hs => ?_)
  obtain ⟨principal, stable, avg, updated⟩ := supply
  have clock : updated = r.stableDebtToken.totalSupplyTimestamp := by
    simp only [StableDebtToken.getSupplyData, bind_eq_ok, pure_eq_ok, Prod.mk.injEq] at hs
    obtain ⟨_, _, _, _, _, rfl⟩ := hs
    rw [kept]
  refine avoids_bind (noUnderflow_rayMul _ _) (fun previousVariable hprev => ?_)
  refine avoids_bind (noUnderflow_rayMul _ _) (fun currentVariable hcur => ?_)
  refine avoids_bind (noUnderflow_compounded (clock.trans_le supply_le)) (fun cumulated hc => ?_)
  refine avoids_bind (noUnderflow_rayMul _ _) (fun previousStable hm => ?_)
  have accrued := debt_accrued_nonneg updated_le hr hs hprev hcur hc hm
  refine avoids_bind (noUnderflow_add _ _) (fun currentDebt hsum => ?_)
  obtain ⟨_, rfl⟩ := SafeMath.add_eq_ok.mp hsum
  refine avoids_bind (noUnderflow_sub (by omega) _) (fun rest hrest => ?_)
  obtain ⟨_, rfl⟩ := SafeMath.sub_eq_ok.mp hrest
  refine avoids_bind (noUnderflow_sub (by omega) _) (fun _ _ => ?_)
  refine avoids_bind (noUnderflow_percentMul _ _) (fun _ _ => ?_)
  exact avoids_ite (fun _ => noUnderflow_mintToTreasury _ _ _) (fun _ => avoids_ok _ _)

theorem ClocksOrdered.accruesSafely (inv : r.ClocksOrdered t) : r.AccruesSafely t where
  supply_le := inv.supply_le
  updated_le := inv.updated_le
  interest_ge _ h := calculateLinearInterest_ge h
  accrued_nonneg _ _ _ _ _ _ _ _ _ hr hs hprev hcur hc hm :=
    debt_accrued_nonneg inv.updated_le hr hs hprev hcur hc hm
  no_underflow := noUnderflow_updateState inv

end Reserve

open LendingPool

variable {pool : LendingPool} {t t' : Nat}

theorem clocksOrdered_invariant :
    TimedInvariant fun t pool => ∀ a, (pool.reserves a).ClocksOrdered t where
  later _ _ _ hle inv a := (inv a).later hle
  write _ _ _ _ ht inv h a := (inv a).change ht (h.change a)

theorem Visited.clocksOrdered {rules : Rules} (h : Visited rules t pool) (a : Address) :
    (pool.reserves a).ClocksOrdered t := by
  refine clocksOrdered_invariant.visited ?_ h a
  intro t this tokens priceOracle lendingRateOracle isContract a
  exact ⟨Nat.le_refl _, Nat.zero_le _⟩

/-- No reserve of any visited state can fail to accrue for want of a difference, then or later. -/
theorem accrual_never_underflows (visited : Visited .any t pool) (later : t ≤ t')
    (asset : Address) :
    (pool.reserves asset).lastUpdateTimestamp ≤ t ∧ (pool.reserves asset).AccruesSafely t' := by
  have inv := visited.clocksOrdered asset
  exact ⟨inv.updated_le, (inv.later later).accruesSafely⟩

/-- A month later, with stable and variable debt and a reserve factor of 60%. -/
theorem borrowedOutMarket_accrues :
    (borrowedOutMarket.reserves Market.weth).AccruesSafely 2592004 := by
  have reachable : Reachable .any 4 borrowedOutMarket :=
    Market.endState_reachable (by decide +kernel) (by decide +kernel)
  exact (accrual_never_underflows (reachable.visited (by decide)) (by decide) Market.weth).2

end ElectroLend
