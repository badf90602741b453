import ElectroLend.Pool.Steps
import Mathlib.Tactic.MkIffOfInductiveProp

namespace ElectroLend

open Outcome

namespace LendingPool

variable (pool : LendingPool) (asset : Address)

/-- `_checkNoLiquidity`: no underlying is held for the reserve, and its stored rate is zero. -/
def checkNoLiquidity : Result Unit :=
  require (pool.underlyingBalance asset = 0 ∧ (pool.reserves asset).currentLiquidityRate = 0)
    .lpcReserveLiquidityNot0

/-- Reads the configuration, changes it and stores it. -/
def updateConfiguration (change : ReserveConfigurationMap → Result ReserveConfigurationMap) :
    Result LendingPool := do
  let currentConfig ← change (pool.reserves asset).configuration
  pure (pool.setConfiguration asset currentConfig)

def enableBorrowingOnReserve (stableBorrowRateEnabled : Bool) : Result LendingPool :=
  pool.updateConfiguration asset fun currentConfig =>
    .ok ((currentConfig.setBorrowingEnabled true).setStableRateBorrowingEnabled
      stableBorrowRateEnabled)

def disableBorrowingOnReserve : Result LendingPool :=
  pool.updateConfiguration asset fun currentConfig => .ok (currentConfig.setBorrowingEnabled false)

/-- What `configureReserveAsCollateral` requires of its parameters. -/
def validateCollateralConfiguration (ltv liquidationThreshold liquidationBonus : Nat) :
    Result Unit := do
  require (ltv ≤ liquidationThreshold) .lpcInvalidConfiguration
  if liquidationThreshold ≠ 0 then do
    require (liquidationBonus > PERCENTAGE_FACTOR) .lpcInvalidConfiguration
    let product ← percentMul liquidationThreshold liquidationBonus
    require (product ≤ PERCENTAGE_FACTOR) .lpcInvalidConfiguration
  else do
    require (liquidationBonus = 0) .lpcInvalidConfiguration
    pool.checkNoLiquidity asset

def configureReserveAsCollateral (ltv liquidationThreshold liquidationBonus : Nat) :
    Result LendingPool := do
  pool.validateCollateralConfiguration asset ltv liquidationThreshold liquidationBonus
  pool.updateConfiguration asset fun currentConfig => do
    let currentConfig ← currentConfig.setLtv ltv
    let currentConfig ← currentConfig.setLiquidationThreshold liquidationThreshold
    currentConfig.setLiquidationBonus liquidationBonus

def enableReserveStableRate : Result LendingPool :=
  pool.updateConfiguration asset fun currentConfig =>
    .ok (currentConfig.setStableRateBorrowingEnabled true)

def disableReserveStableRate : Result LendingPool :=
  pool.updateConfiguration asset fun currentConfig =>
    .ok (currentConfig.setStableRateBorrowingEnabled false)

def activateReserve : Result LendingPool :=
  pool.updateConfiguration asset fun currentConfig => .ok (currentConfig.setActive true)

def deactivateReserve : Result LendingPool := do
  pool.checkNoLiquidity asset
  pool.updateConfiguration asset fun currentConfig => .ok (currentConfig.setActive false)

def freezeReserve : Result LendingPool :=
  pool.updateConfiguration asset fun currentConfig => .ok (currentConfig.setFrozen true)

def unfreezeReserve : Result LendingPool :=
  pool.updateConfiguration asset fun currentConfig => .ok (currentConfig.setFrozen false)

def setReserveFactor (reserveFactor : Nat) : Result LendingPool :=
  pool.updateConfiguration asset (·.setReserveFactor reserveFactor)

end LendingPool

/-- The collateral parameters are ones that `configureReserveAsCollateral` lets through. -/
@[mk_iff] structure ReserveConfigurationMap.Accepted (config : ReserveConfigurationMap) : Prop where
  ltv_le : config.getParams.ltv ≤ config.getParams.liquidationThreshold
  bonus_gt : config.getParams.liquidationThreshold ≠ 0 →
    PERCENTAGE_FACTOR < config.getParams.liquidationBonus
  product_le : config.getParams.liquidationThreshold ≠ 0 →
    halfUp (config.getParams.liquidationThreshold * config.getParams.liquidationBonus)
      PERCENTAGE_FACTOR ≤ PERCENTAGE_FACTOR
  bonus_zero : config.getParams.liquidationThreshold = 0 → config.getParams.liquidationBonus = 0

instance (config : ReserveConfigurationMap) : Decidable config.Accepted :=
  decidable_of_iff _ (ReserveConfigurationMap.accepted_iff config).symm

/-- The rounded product leaves no room for a threshold of the whole. -/
theorem threshold_lt_of_product {threshold bonus : Nat} (hb : PERCENTAGE_FACTOR < bonus)
    (hp : halfUp (threshold * bonus) PERCENTAGE_FACTOR ≤ PERCENTAGE_FACTOR) :
    threshold < PERCENTAGE_FACTOR := by
  by_contra hge
  have hmul : PERCENTAGE_FACTOR * (PERCENTAGE_FACTOR + 1) ≤ threshold * bonus :=
    Nat.mul_le_mul (by omega) hb
  have hq : PERCENTAGE_FACTOR + 1 ≤ halfUp (threshold * bonus) PERCENTAGE_FACTOR :=
    HalfUp.le_of_mul_le (by rwa [Nat.mul_comm] at hmul) (by decide)
  omega

theorem ReserveConfigurationMap.Accepted.threshold_lt {config : ReserveConfigurationMap}
    (h : config.Accepted) : config.getParams.liquidationThreshold < PERCENTAGE_FACTOR := by
  by_cases hz : config.getParams.liquidationThreshold = 0
  · rw [hz]
    decide
  · exact threshold_lt_of_product (h.bonus_gt hz) (h.product_le hz)

theorem ReserveConfigurationMap.Accepted.same {config config' : ReserveConfigurationMap}
    (h : config.Accepted) (same : config.SameCollateral config') : config'.Accepted := by
  obtain ⟨hl, ht, hb⟩ := same
  refine ⟨?_, ?_, ?_, ?_⟩
  · rw [hl, ht]
    exact h.ltv_le
  · rw [ht, hb]
    exact h.bonus_gt
  · rw [ht, hb]
    exact h.product_le
  · rw [ht, hb]
    exact h.bonus_zero

namespace LendingPool

variable {pool pool' : LendingPool} {asset : Address}

theorem configureReserveAsCollateral_eq_ok {ltv threshold bonus : Nat}
    (h : pool.configureReserveAsCollateral asset ltv threshold bonus = .ok pool') :
    ltv ≤ threshold ∧
      ((threshold ≠ 0 ∧ PERCENTAGE_FACTOR < bonus ∧
          halfUp (threshold * bonus) PERCENTAGE_FACTOR ≤ PERCENTAGE_FACTOR) ∨
        (threshold = 0 ∧ bonus = 0 ∧ pool.checkNoLiquidity asset = .ok ())) ∧
      ∃ config : ReserveConfigurationMap, config.getParams.ltv = ltv ∧
        config.getParams.liquidationThreshold = threshold ∧
        config.getParams.liquidationBonus = bonus ∧ pool' = pool.setConfiguration asset config := by
  simp only [configureReserveAsCollateral, validateCollateralConfiguration, updateConfiguration,
    bind_eq_ok, require_eq_ok, pure_eq_ok, ite_eq_ok, percentMul_eq_ok] at h
  obtain ⟨_, ⟨_, hltv, hcheck⟩, config, ⟨first, h₁, second, h₂, h₃⟩, rfl⟩ := h
  obtain ⟨hl, ht, hb⟩ := ReserveConfigurationMap.setCollateral_params h₁ h₂ h₃
  refine ⟨hltv, ?_, config, hl, ht, hb, rfl⟩
  obtain ⟨hne, _, hbonus, product, ⟨_, rfl⟩, hproduct⟩ | ⟨hz, _, hbonus, hnone⟩ := hcheck
  · exact .inl ⟨hne, hbonus, hproduct⟩
  · exact .inr ⟨not_not.mp hz, hbonus, hnone⟩

theorem configureReserveAsCollateral_accepted {ltv threshold bonus : Nat}
    (accepted : ∀ a, (pool.reserves a).configuration.Accepted)
    (h : pool.configureReserveAsCollateral asset ltv threshold bonus = .ok pool') (a : Address) :
    (pool'.reserves a).configuration.Accepted := by
  obtain ⟨hle, hcheck, config, rfl, rfl, rfl, rfl⟩ := configureReserveAsCollateral_eq_ok h
  by_cases ha : a = asset
  · subst ha
    simp only [setConfiguration, setReserve_reserves, Function.update_self]
    obtain ⟨hne, hbonus, hproduct⟩ | ⟨hz, hbonus, _⟩ := hcheck
    · exact ⟨hle, fun _ => hbonus, fun _ => hproduct, fun hz => absurd hz hne⟩
    · exact ⟨hle, fun hne => absurd hz hne, fun hne => absurd hz hne, fun _ => hbonus⟩
  · simpa [setConfiguration, ha] using accepted a

end LendingPool

end ElectroLend
