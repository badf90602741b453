import ElectroLend.Lending.GrossRates
import ElectroLend.Properties.AccountDebt
import ElectroLend.Properties.AdminRuns

namespace ElectroLend

open Outcome LendingPool

namespace AdminCall

def execAll (pool : LendingPool) : List AdminCall → Result LendingPool
  | [] => .ok pool
  | call :: rest => do
    let pool ← call.exec pool
    execAll pool rest

def reserveFactorAfter (asset : Address) (params : ReserveConfigurationMap.Params)
    (calls : List AdminCall) : Nat :=
  (calls.foldl (paramsAfter asset) params).reserveFactor

end AdminCall

namespace LendingPool

variable {pool pool' : LendingPool} {call : AdminCall} {calls : List AdminCall} {asset : Address}

/-- Nothing but the configurations of reserves differs. -/
structure SameButConfigurations (pool pool' : LendingPool) : Prop where
  tokens : pool'.tokens = pool.tokens
  lendingRateOracle : pool'.lendingRateOracle = pool.lendingRateOracle
  reserves : ∀ a, pool'.reserves a =
    { pool.reserves a with configuration := (pool'.reserves a).configuration }

theorem SameButConfigurations.trans {middle : LendingPool} (h : SameButConfigurations pool middle)
    (h' : SameButConfigurations middle pool') : SameButConfigurations pool pool' where
  tokens := h'.tokens.trans h.tokens
  lendingRateOracle := h'.lendingRateOracle.trans h.lendingRateOracle
  reserves a := by rw [h'.reserves a, h.reserves a]

theorem updateConfiguration_same {change : ReserveConfigurationMap → Result ReserveConfigurationMap}
    (h : pool.updateConfiguration asset change = .ok pool') : SameButConfigurations pool pool' := by
  obtain ⟨config, _, hset⟩ := bind_eq_ok.mp h
  cases Except.ok.inj hset
  refine ⟨rfl, rfl, fun a => ?_⟩
  by_cases ha : a = asset
  · subst ha
    simp [setConfiguration]
  · simp [setConfiguration, ha]

end LendingPool

variable {pool pool' : LendingPool} {call : AdminCall} {calls : List AdminCall}
  {asset elToken : Address} {t added taken : Nat}

theorem AdminCall.exec_same (hlists : call.lists = false) (h : call.exec pool = .ok pool') :
    SameButConfigurations pool pool' := by
  cases call with
  | batchInitReserve input => cases hlists
  | configureReserveAsCollateral asset ltv liquidationThreshold liquidationBonus =>
    obtain ⟨_, _, hset⟩ := bind_eq_ok.mp h
    exact updateConfiguration_same hset
  | enableBorrowingOnReserve asset stableBorrowRateEnabled =>
    rw [exec, LendingPool.enableBorrowingOnReserve] at h
    exact updateConfiguration_same h
  | disableBorrowingOnReserve asset =>
    rw [exec, LendingPool.disableBorrowingOnReserve] at h
    exact updateConfiguration_same h
  | enableReserveStableRate asset =>
    rw [exec, LendingPool.enableReserveStableRate] at h
    exact updateConfiguration_same h
  | disableReserveStableRate asset =>
    rw [exec, LendingPool.disableReserveStableRate] at h
    exact updateConfiguration_same h
  | activateReserve asset =>
    rw [exec, LendingPool.activateReserve] at h
    exact updateConfiguration_same h
  | deactivateReserve asset =>
    obtain ⟨_, _, hset⟩ := bind_eq_ok.mp h
    exact updateConfiguration_same hset
  | freezeReserve asset =>
    rw [exec, LendingPool.freezeReserve] at h
    exact updateConfiguration_same h
  | unfreezeReserve asset =>
    rw [exec, LendingPool.unfreezeReserve] at h
    exact updateConfiguration_same h
  | setReserveFactor asset reserveFactor =>
    rw [exec, LendingPool.setReserveFactor] at h
    exact updateConfiguration_same h

theorem AdminCall.execAll_same (hlists : ∀ call ∈ calls, call.lists = false)
    (h : execAll pool calls = .ok pool') : SameButConfigurations pool pool' := by
  induction calls generalizing pool with
  | nil =>
    cases Except.ok.inj h
    exact ⟨rfl, rfl, fun _ => rfl⟩
  | cons first rest ih =>
    obtain ⟨middle, hfirst, hrest⟩ := bind_eq_ok.mp h
    have firstSame := exec_same (hlists first (List.mem_cons_self ..)) hfirst
    have restSame := ih (fun call hc => hlists call (List.mem_cons_of_mem _ hc)) hrest
    exact firstSame.trans restSame

theorem AdminCall.execAll_params (hlists : ∀ call ∈ calls, call.lists = false)
    (h : execAll pool calls = .ok pool') (a : Address) :
    (pool'.reserves a).configuration.getParams =
      calls.foldl (paramsAfter a) (pool.reserves a).configuration.getParams := by
  induction calls generalizing pool with
  | nil =>
    cases Except.ok.inj h
    rfl
  | cons first rest ih =>
    obtain ⟨middle, hfirst, hrest⟩ := bind_eq_ok.mp h
    have params := exec_params (hlists first (List.mem_cons_self ..)) hfirst a
    rw [ih (fun call hc => hlists call (List.mem_cons_of_mem _ hc)) hrest, params]
    rfl

/-- The gross rates of a reserve for this change of its liquidity. -/
def LendingPool.grossRates (pool : LendingPool) (blockTimestamp : Nat) (asset elToken : Address)
    (liquidityAdded liquidityTaken : Nat) : Result InterestRates :=
  (pool.reserves asset).grossRates blockTimestamp (pool.lendingRateOracle asset)
    ((pool.tokens asset).balanceOf elToken) liquidityAdded liquidityTaken

/-- What the factor leaves of the gross rate fits the word it is stored in. -/
def LendingPool.DepositorsRateFits (pool : LendingPool) (blockTimestamp : Nat)
    (asset elToken : Address) (liquidityAdded liquidityTaken factor : Nat) : Prop :=
  ∀ gross, pool.grossRates blockTimestamp asset elToken liquidityAdded liquidityTaken = .ok gross →
    Reserve.depositorsRate gross.liquidityRate factor ≤ uint128Max

theorem LendingPool.updateInterestRates_succeeds_iff :
    (∃ updated, pool.updateInterestRates t asset elToken added taken = .ok updated) ↔
      ∃ gross, pool.grossRates t asset elToken added taken = .ok gross ∧
        (pool.reserves asset).configuration.getReserveFactor ≤ PERCENTAGE_FACTOR ∧
        Reserve.depositorsRate gross.liquidityRate
          (pool.reserves asset).configuration.getReserveFactor ≤ uint128Max ∧
        gross.stableBorrowRate ≤ uint128Max ∧ gross.variableBorrowRate ≤ uint128Max := by
  have reserve : (∃ updated, pool.updateInterestRates t asset elToken added taken = .ok updated) ↔
      ∃ r, (pool.reserves asset).updateInterestRates t (pool.lendingRateOracle asset)
        ((pool.tokens asset).balanceOf elToken) added taken = .ok r := by
    constructor
    · intro h
      obtain ⟨updated, hupdate⟩ := h
      obtain ⟨r, hr, _⟩ := updateInterestRates_eq_ok hupdate
      exact ⟨r, hr⟩
    · intro h
      obtain ⟨r, hr⟩ := h
      exact ⟨_, bind_eq_ok.mpr ⟨r, hr, rfl⟩⟩
  exact reserve.trans Reserve.updateInterestRates_succeeds_iff

theorem LendingPool.SameButConfigurations.grossRates (h : SameButConfigurations pool pool') :
    pool'.grossRates t asset elToken added taken = pool.grossRates t asset elToken added taken := by
  simp only [LendingPool.grossRates, h.tokens, h.lendingRateOracle]
  rw [h.reserves asset]
  rfl

/-- After any calls of the configurator the rates of a reserve can still be updated exactly when its
reserve factor is at most 100% and, where it has been lowered, the depositors' rate fits. -/
theorem rates_after_configuration_iff {updated : LendingPool}
    (before : pool.updateInterestRates t asset elToken added taken = .ok updated)
    (hlists : ∀ call ∈ calls, call.lists = false)
    (success : AdminCall.execAll pool calls = .ok pool') :
    (∃ updated', pool'.updateInterestRates t asset elToken added taken = .ok updated') ↔
      AdminCall.reserveFactorAfter asset (pool.reserves asset).configuration.getParams calls ≤
          PERCENTAGE_FACTOR ∧
        (AdminCall.reserveFactorAfter asset (pool.reserves asset).configuration.getParams calls <
            (pool.reserves asset).configuration.getReserveFactor →
          pool.DepositorsRateFits t asset elToken added taken
            (AdminCall.reserveFactorAfter asset (pool.reserves asset).configuration.getParams
              calls)) := by
  have factor : (pool'.reserves asset).configuration.getReserveFactor =
      AdminCall.reserveFactorAfter asset (pool.reserves asset).configuration.getParams calls :=
    congrArg ReserveConfigurationMap.Params.reserveFactor
      (AdminCall.execAll_params hlists success asset)
  have same := AdminCall.execAll_same hlists success
  obtain ⟨gross, hgross, hle, hfits, hstable, hvariable⟩ :=
    updateInterestRates_succeeds_iff.mp ⟨updated, before⟩
  rw [updateInterestRates_succeeds_iff, same.grossRates, factor]
  constructor
  · intro h
    obtain ⟨gross', hgross', hle', hfits', _, _⟩ := h
    refine ⟨hle', fun _ gross₀ h₀ => ?_⟩
    rw [ok_unique h₀ hgross']
    exact hfits'
  · intro h
    obtain ⟨hle', hfits'⟩ := h
    refine ⟨gross, hgross, hle', ?_, hstable, hvariable⟩
    rcases Nat.lt_or_ge (AdminCall.reserveFactorAfter asset
      (pool.reserves asset).configuration.getParams calls)
      (pool.reserves asset).configuration.getReserveFactor with hlt | hge
    · exact hfits' hlt gross hgross
    · exact (Reserve.depositorsRate_anti _ hge).trans hfits

/-- The reserve factor is raised and the reserve frozen: its rates can still be updated. -/
theorem borrowedMarket_keeps_rates :
    ∃ elToken updated pool' updated',
      borrowedMarket.updateInterestRates 4 Market.weth elToken 0 (10 ^ 18) = .ok updated ∧
      AdminCall.execAll borrowedMarket
        [.setReserveFactor Market.weth 9000, .freezeReserve Market.weth] = .ok pool' ∧
      pool'.updateInterestRates 4 Market.weth elToken 0 (10 ^ 18) = .ok updated' := by
  have script : succeedsWith (do
      let updated ← borrowedMarket.updateInterestRates 4 Market.weth
        (borrowedMarket.reserves Market.weth).elTokenAddress 0 (10 ^ 18)
      let pool' ← AdminCall.execAll borrowedMarket
        [.setReserveFactor Market.weth 9000, .freezeReserve Market.weth]
      pure (updated, pool')) (fun _ => true) = true := by decide +kernel
  have raised : PERCENTAGE_FACTOR ≥ 9000 ∧
      AdminCall.reserveFactorAfter Market.weth
        (borrowedMarket.reserves Market.weth).configuration.getParams
        [.setReserveFactor Market.weth 9000, .freezeReserve Market.weth] = 9000 ∧
      (borrowedMarket.reserves Market.weth).configuration.getReserveFactor = 1000 := by
    decide +kernel
  obtain ⟨whole, after, before⟩ := raised
  obtain ⟨_, hscript, _⟩ := succeedsWith_iff.mp script
  simp only [bind_eq_ok] at hscript
  obtain ⟨updated, hupdate, pool', success, _⟩ := hscript
  have iff := rates_after_configuration_iff hupdate (by decide) success
  rw [after, before] at iff
  obtain ⟨updated', hupdate'⟩ := iff.mpr ⟨whole, fun hlt => absurd hlt (by decide)⟩
  exact ⟨_, updated, pool', updated', hupdate, success, hupdate'⟩

/-- A reserve factor above 100% goes through, and the depositors can no longer withdraw. -/
theorem borrowedMarket_frozen_by_factor :
    Reachable .any 4 borrowedMarket ∧
      ∃ elToken updated paid withdrawn pool',
        borrowedMarket.updateInterestRates 4 Market.weth elToken 0 (10 ^ 18) = .ok updated ∧
        borrowedMarket.withdraw 4 Market.alice Market.weth (10 ^ 18) Market.alice =
          .ok (paid, withdrawn) ∧
        AdminCall.execAll borrowedMarket [.setReserveFactor Market.weth 10001] = .ok pool' ∧
        pool'.updateInterestRates 4 Market.weth elToken 0 (10 ^ 18) =
          .error .safeMathSubtractionOverflow ∧
        pool'.withdraw 4 Market.alice Market.weth (10 ^ 18) Market.alice =
          .error .safeMathSubtractionOverflow := by
  have reachable : Reachable .any 4 borrowedMarket :=
    Market.endState_reachable (by decide +kernel) (by decide +kernel)
  have script : succeedsWith (do
      let updated ← borrowedMarket.updateInterestRates 4 Market.weth
        (borrowedMarket.reserves Market.weth).elTokenAddress 0 (10 ^ 18)
      let result ← borrowedMarket.withdraw 4 Market.alice Market.weth (10 ^ 18) Market.alice
      let pool' ← AdminCall.execAll borrowedMarket [.setReserveFactor Market.weth 10001]
      pure (updated, result, pool')) (fun (_, _, pool') =>
        failsWith (pool'.updateInterestRates 4 Market.weth
          (borrowedMarket.reserves Market.weth).elTokenAddress 0 (10 ^ 18))
            .safeMathSubtractionOverflow &&
        failsWith (pool'.withdraw 4 Market.alice Market.weth (10 ^ 18) Market.alice)
          .safeMathSubtractionOverflow) = true := by decide +kernel
  obtain ⟨_, hscript, hfails⟩ := succeedsWith_iff.mp script
  simp only [bind_eq_ok, pure_eq_ok] at hscript
  obtain ⟨updated, before, ⟨paid, withdrawn⟩, hwithdraw, pool', success, rfl⟩ := hscript
  obtain ⟨hrates, hblocked⟩ := Bool.and_eq_true_iff.mp hfails
  exact ⟨reachable, _, updated, paid, withdrawn, pool', before, hwithdraw, success,
    failsWith_iff.mp hrates, failsWith_iff.mp hblocked⟩

end ElectroLend
