import ElectroLend.Errors
import ElectroLend.Library.BitField

namespace ElectroLend

open Outcome

structure ReserveConfigurationMap where
  data : BitVec 256
  deriving DecidableEq, Repr

def LTV_MASK : BitVec 256 :=
  0xFFFFFFFFFFFFFFFFFFFFFFFFFFFFFFFFFFFFFFFFFFFFFFFFFFFFFFFFFFFF0000
def LIQUIDATION_THRESHOLD_MASK : BitVec 256 :=
  0xFFFFFFFFFFFFFFFFFFFFFFFFFFFFFFFFFFFFFFFFFFFFFFFFFFFFFFFF0000FFFF
def LIQUIDATION_BONUS_MASK : BitVec 256 :=
  0xFFFFFFFFFFFFFFFFFFFFFFFFFFFFFFFFFFFFFFFFFFFFFFFFFFFF0000FFFFFFFF
def DECIMALS_MASK : BitVec 256 :=
  0xFFFFFFFFFFFFFFFFFFFFFFFFFFFFFFFFFFFFFFFFFFFFFFFFFF00FFFFFFFFFFFF
def ACTIVE_MASK : BitVec 256 :=
  0xFFFFFFFFFFFFFFFFFFFFFFFFFFFFFFFFFFFFFFFFFFFFFFFFFEFFFFFFFFFFFFFF
def FROZEN_MASK : BitVec 256 :=
  0xFFFFFFFFFFFFFFFFFFFFFFFFFFFFFFFFFFFFFFFFFFFFFFFFFDFFFFFFFFFFFFFF
def BORROWING_MASK : BitVec 256 :=
  0xFFFFFFFFFFFFFFFFFFFFFFFFFFFFFFFFFFFFFFFFFFFFFFFFFBFFFFFFFFFFFFFF
def STABLE_BORROWING_MASK : BitVec 256 :=
  0xFFFFFFFFFFFFFFFFFFFFFFFFFFFFFFFFFFFFFFFFFFFFFFFFF7FFFFFFFFFFFFFF
def RESERVE_FACTOR_MASK : BitVec 256 :=
  0xFFFFFFFFFFFFFFFFFFFFFFFFFFFFFFFFFFFFFFFFFFFF0000FFFFFFFFFFFFFFFF

def LIQUIDATION_THRESHOLD_START_BIT_POSITION : Nat := 16
def LIQUIDATION_BONUS_START_BIT_POSITION : Nat := 32
def RESERVE_DECIMALS_START_BIT_POSITION : Nat := 48
def IS_ACTIVE_START_BIT_POSITION : Nat := 56
def IS_FROZEN_START_BIT_POSITION : Nat := 57
def BORROWING_ENABLED_START_BIT_POSITION : Nat := 58
def STABLE_BORROWING_ENABLED_START_BIT_POSITION : Nat := 59
def RESERVE_FACTOR_START_BIT_POSITION : Nat := 64

def MAX_VALID_LTV : Nat := 65535
def MAX_VALID_LIQUIDATION_THRESHOLD : Nat := 65535
def MAX_VALID_LIQUIDATION_BONUS : Nat := 65535
def MAX_VALID_DECIMALS : Nat := 255
def MAX_VALID_RESERVE_FACTOR : Nat := 65535

namespace ReserveConfigurationMap

/-- The bits of `self` outside `mask`, shifted down to position 0. -/
def field (self : ReserveConfigurationMap) (mask : BitVec 256) (start : Nat) : Nat :=
  ((self.data &&& ~~~mask) >>> start).toNat

def flag (self : ReserveConfigurationMap) (mask : BitVec 256) : Bool :=
  self.data &&& ~~~mask != 0

/-- Keeps the bits under `mask` and writes `value` at `start`. -/
def write (self : ReserveConfigurationMap) (mask : BitVec 256) (start value : Nat) :
    ReserveConfigurationMap :=
  ⟨(self.data &&& mask) ||| (BitVec.ofNat 256 value <<< start)⟩

def getLtv (self : ReserveConfigurationMap) : Nat := self.field LTV_MASK 0

def getLiquidationThreshold (self : ReserveConfigurationMap) : Nat :=
  self.field LIQUIDATION_THRESHOLD_MASK LIQUIDATION_THRESHOLD_START_BIT_POSITION

def getLiquidationBonus (self : ReserveConfigurationMap) : Nat :=
  self.field LIQUIDATION_BONUS_MASK LIQUIDATION_BONUS_START_BIT_POSITION

def getDecimals (self : ReserveConfigurationMap) : Nat :=
  self.field DECIMALS_MASK RESERVE_DECIMALS_START_BIT_POSITION

def getReserveFactor (self : ReserveConfigurationMap) : Nat :=
  self.field RESERVE_FACTOR_MASK RESERVE_FACTOR_START_BIT_POSITION

def getActive (self : ReserveConfigurationMap) : Bool := self.flag ACTIVE_MASK

def getFrozen (self : ReserveConfigurationMap) : Bool := self.flag FROZEN_MASK

def getBorrowingEnabled (self : ReserveConfigurationMap) : Bool := self.flag BORROWING_MASK

def getStableRateBorrowingEnabled (self : ReserveConfigurationMap) : Bool :=
  self.flag STABLE_BORROWING_MASK

structure Flags where
  isActive : Bool
  isFrozen : Bool
  borrowingEnabled : Bool
  stableRateBorrowingEnabled : Bool

def getFlags (self : ReserveConfigurationMap) : Flags where
  isActive := self.flag ACTIVE_MASK
  isFrozen := self.flag FROZEN_MASK
  borrowingEnabled := self.flag BORROWING_MASK
  stableRateBorrowingEnabled := self.flag STABLE_BORROWING_MASK

structure Params where
  ltv : Nat
  liquidationThreshold : Nat
  liquidationBonus : Nat
  decimals : Nat
  reserveFactor : Nat

def getParams (self : ReserveConfigurationMap) : Params where
  ltv := self.field LTV_MASK 0
  liquidationThreshold :=
    self.field LIQUIDATION_THRESHOLD_MASK LIQUIDATION_THRESHOLD_START_BIT_POSITION
  liquidationBonus := self.field LIQUIDATION_BONUS_MASK LIQUIDATION_BONUS_START_BIT_POSITION
  decimals := self.field DECIMALS_MASK RESERVE_DECIMALS_START_BIT_POSITION
  reserveFactor := self.field RESERVE_FACTOR_MASK RESERVE_FACTOR_START_BIT_POSITION

/-- `getParams` of a configuration in memory. -/
def getParamsMemory (self : ReserveConfigurationMap) : Params where
  ltv := self.field LTV_MASK 0
  liquidationThreshold :=
    self.field LIQUIDATION_THRESHOLD_MASK LIQUIDATION_THRESHOLD_START_BIT_POSITION
  liquidationBonus := self.field LIQUIDATION_BONUS_MASK LIQUIDATION_BONUS_START_BIT_POSITION
  decimals := self.field DECIMALS_MASK RESERVE_DECIMALS_START_BIT_POSITION
  reserveFactor := self.field RESERVE_FACTOR_MASK RESERVE_FACTOR_START_BIT_POSITION

/-- `getFlags` of a configuration in memory. -/
def getFlagsMemory (self : ReserveConfigurationMap) : Flags where
  isActive := self.flag ACTIVE_MASK
  isFrozen := self.flag FROZEN_MASK
  borrowingEnabled := self.flag BORROWING_MASK
  stableRateBorrowingEnabled := self.flag STABLE_BORROWING_MASK

def setLtv (self : ReserveConfigurationMap) (ltv : Nat) : Result ReserveConfigurationMap := do
  require (ltv ≤ MAX_VALID_LTV) .rcInvalidLtv
  pure (self.write LTV_MASK 0 ltv)

def setLiquidationThreshold (self : ReserveConfigurationMap) (threshold : Nat) :
    Result ReserveConfigurationMap := do
  require (threshold ≤ MAX_VALID_LIQUIDATION_THRESHOLD) .rcInvalidLiqThreshold
  pure (self.write LIQUIDATION_THRESHOLD_MASK LIQUIDATION_THRESHOLD_START_BIT_POSITION threshold)

def setLiquidationBonus (self : ReserveConfigurationMap) (bonus : Nat) :
    Result ReserveConfigurationMap := do
  require (bonus ≤ MAX_VALID_LIQUIDATION_BONUS) .rcInvalidLiqBonus
  pure (self.write LIQUIDATION_BONUS_MASK LIQUIDATION_BONUS_START_BIT_POSITION bonus)

def setDecimals (self : ReserveConfigurationMap) (decimals : Nat) :
    Result ReserveConfigurationMap := do
  require (decimals ≤ MAX_VALID_DECIMALS) .rcInvalidDecimals
  pure (self.write DECIMALS_MASK RESERVE_DECIMALS_START_BIT_POSITION decimals)

def setActive (self : ReserveConfigurationMap) (active : Bool) : ReserveConfigurationMap :=
  self.write ACTIVE_MASK IS_ACTIVE_START_BIT_POSITION active.toNat

def setFrozen (self : ReserveConfigurationMap) (frozen : Bool) : ReserveConfigurationMap :=
  self.write FROZEN_MASK IS_FROZEN_START_BIT_POSITION frozen.toNat

def setBorrowingEnabled (self : ReserveConfigurationMap) (enabled : Bool) :
    ReserveConfigurationMap :=
  self.write BORROWING_MASK BORROWING_ENABLED_START_BIT_POSITION enabled.toNat

def setStableRateBorrowingEnabled (self : ReserveConfigurationMap) (enabled : Bool) :
    ReserveConfigurationMap :=
  self.write STABLE_BORROWING_MASK STABLE_BORROWING_ENABLED_START_BIT_POSITION enabled.toNat

def setReserveFactor (self : ReserveConfigurationMap) (reserveFactor : Nat) :
    Result ReserveConfigurationMap := do
  require (reserveFactor ≤ MAX_VALID_RESERVE_FACTOR) .rcInvalidReserveFactor
  pure (self.write RESERVE_FACTOR_MASK RESERVE_FACTOR_START_BIT_POSITION reserveFactor)

theorem ltv_mask : LTV_MASK = BitField.mask 256 0 16 := by decide +kernel

theorem liquidationThreshold_mask : LIQUIDATION_THRESHOLD_MASK = BitField.mask 256 16 16 := by
  decide +kernel

theorem liquidationBonus_mask : LIQUIDATION_BONUS_MASK = BitField.mask 256 32 16 := by
  decide +kernel

theorem decimals_mask : DECIMALS_MASK = BitField.mask 256 48 8 := by decide +kernel

theorem active_mask : ACTIVE_MASK = BitField.mask 256 56 1 := by decide +kernel

theorem frozen_mask : FROZEN_MASK = BitField.mask 256 57 1 := by decide +kernel

theorem borrowing_mask : BORROWING_MASK = BitField.mask 256 58 1 := by decide +kernel

theorem stableBorrowing_mask : STABLE_BORROWING_MASK = BitField.mask 256 59 1 := by
  decide +kernel

theorem reserveFactor_mask : RESERVE_FACTOR_MASK = BitField.mask 256 64 16 := by decide +kernel

section Fields

variable {self self' : ReserveConfigurationMap} {start width start' width' value : Nat}

theorem field_write_same (hn : start + width ≤ 256) (hv : value < 2 ^ width) :
    (self.write (BitField.mask 256 start width) start value).field
      (BitField.mask 256 start width) start = value :=
  BitField.read_write_same self.data hn hv

theorem field_write_other (hn : start + width ≤ 256) (hv : value < 2 ^ width)
    (apart : start' + width' ≤ start ∨ start + width ≤ start') :
    (self.write (BitField.mask 256 start width) start value).field
      (BitField.mask 256 start' width') start' = self.field (BitField.mask 256 start' width') start' :=
  BitField.read_write_other self.data hn hv apart

/-- The two configurations have the collateral parameters in common. -/
structure SameCollateral (config config' : ReserveConfigurationMap) : Prop where
  ltv : config'.getParams.ltv = config.getParams.ltv
  liquidationThreshold :
    config'.getParams.liquidationThreshold = config.getParams.liquidationThreshold
  liquidationBonus : config'.getParams.liquidationBonus = config.getParams.liquidationBonus

theorem write_sameCollateral (hlow : 48 ≤ start) (hn : start + width ≤ 256)
    (hv : value < 2 ^ width) :
    self.SameCollateral (self.write (BitField.mask 256 start width) start value) where
  ltv := by
    simp only [getParams, ltv_mask]
    exact field_write_other hn hv (by omega)
  liquidationThreshold := by
    simp only [getParams, liquidationThreshold_mask]
    exact field_write_other hn hv (.inl (by omega))
  liquidationBonus := by
    simp only [getParams, liquidationBonus_mask]
    exact field_write_other hn hv (.inl (by omega))

theorem SameCollateral.refl (self : ReserveConfigurationMap) : self.SameCollateral self :=
  ⟨rfl, rfl, rfl⟩

theorem SameCollateral.trans {self'' : ReserveConfigurationMap} (h : self.SameCollateral self')
    (h' : self'.SameCollateral self'') : self.SameCollateral self'' where
  ltv := h'.ltv.trans h.ltv
  liquidationThreshold := h'.liquidationThreshold.trans h.liquidationThreshold
  liquidationBonus := h'.liquidationBonus.trans h.liquidationBonus

theorem bool_toNat_lt (b : Bool) : b.toNat < 2 ^ 1 := by
  cases b with
  | false => decide
  | true => decide

theorem setDecimals_sameCollateral {decimals : Nat} (h : self.setDecimals decimals = .ok self') :
    self.SameCollateral self' := by
  simp only [setDecimals, bind_eq_ok, require_eq_ok, pure_eq_ok] at h
  obtain ⟨_, hle, rfl⟩ := h
  rw [decimals_mask]
  exact write_sameCollateral (by decide) (by decide) (Nat.lt_succ_of_le hle)

theorem setActive_sameCollateral (active : Bool) : self.SameCollateral (self.setActive active) := by
  rw [setActive, active_mask]
  exact write_sameCollateral (by decide) (by decide) (bool_toNat_lt active)

theorem setFrozen_sameCollateral (frozen : Bool) : self.SameCollateral (self.setFrozen frozen) := by
  rw [setFrozen, frozen_mask]
  exact write_sameCollateral (by decide) (by decide) (bool_toNat_lt frozen)

theorem setCollateral_params {ltv threshold bonus : Nat} {first second : ReserveConfigurationMap}
    (h₁ : self.setLtv ltv = .ok first) (h₂ : first.setLiquidationThreshold threshold = .ok second)
    (h₃ : second.setLiquidationBonus bonus = .ok self') :
    self'.getParams.ltv = ltv ∧ self'.getParams.liquidationThreshold = threshold ∧
      self'.getParams.liquidationBonus = bonus := by
  simp only [setLtv, setLiquidationThreshold, setLiquidationBonus, bind_eq_ok, require_eq_ok,
    pure_eq_ok] at h₁ h₂ h₃
  obtain ⟨_, hl, rfl⟩ := h₁
  obtain ⟨_, ht, rfl⟩ := h₂
  obtain ⟨_, hb, rfl⟩ := h₃
  have hl : ltv < 2 ^ 16 := Nat.lt_succ_of_le hl
  have ht : threshold < 2 ^ 16 := Nat.lt_succ_of_le ht
  have hb : bonus < 2 ^ 16 := Nat.lt_succ_of_le hb
  simp only [getParams, ltv_mask, liquidationThreshold_mask, liquidationBonus_mask,
    LIQUIDATION_THRESHOLD_START_BIT_POSITION, LIQUIDATION_BONUS_START_BIT_POSITION]
  refine ⟨?_, ?_, ?_⟩
  · rw [field_write_other (by decide) hb (by decide), field_write_other (by decide) ht (by decide),
      field_write_same (by decide) hl]
  · rw [field_write_other (by decide) hb (by decide), field_write_same (by decide) ht]
  · rw [field_write_same (by decide) hb]

/-- Every choice of collateral parameters that fit their fields can be configured, for a token
without decimals. -/
theorem exists_params {ltv threshold bonus : Nat} (hl : ltv ≤ MAX_VALID_LTV)
    (ht : threshold ≤ MAX_VALID_LIQUIDATION_THRESHOLD) (hb : bonus ≤ MAX_VALID_LIQUIDATION_BONUS) :
    ∃ config : ReserveConfigurationMap, config.getParams.ltv = ltv ∧
      config.getParams.liquidationThreshold = threshold ∧
      config.getParams.liquidationBonus = bonus ∧ config.getParams.decimals = 0 := by
  obtain ⟨first, h₁⟩ : ∃ first, (⟨0⟩ : ReserveConfigurationMap).setLtv ltv = .ok first :=
    ⟨_, bind_eq_ok.mpr ⟨(), require_of hl, rfl⟩⟩
  obtain ⟨second, h₂⟩ : ∃ second, first.setLiquidationThreshold threshold = .ok second :=
    ⟨_, bind_eq_ok.mpr ⟨(), require_of ht, rfl⟩⟩
  obtain ⟨third, h₃⟩ : ∃ third, second.setLiquidationBonus bonus = .ok third :=
    ⟨_, bind_eq_ok.mpr ⟨(), require_of hb, rfl⟩⟩
  obtain ⟨hltv, hthreshold, hbonus⟩ := setCollateral_params h₁ h₂ h₃
  refine ⟨third, hltv, hthreshold, hbonus, ?_⟩
  simp only [setLtv, setLiquidationThreshold, setLiquidationBonus, bind_eq_ok, require_eq_ok,
    pure_eq_ok] at h₁ h₂ h₃
  obtain ⟨_, _, rfl⟩ := h₁
  obtain ⟨_, _, rfl⟩ := h₂
  obtain ⟨_, _, rfl⟩ := h₃
  simp only [getParams, decimals_mask, ltv_mask, liquidationThreshold_mask, liquidationBonus_mask,
    LIQUIDATION_THRESHOLD_START_BIT_POSITION, LIQUIDATION_BONUS_START_BIT_POSITION,
    RESERVE_DECIMALS_START_BIT_POSITION]
  rw [field_write_other (by decide) (Nat.lt_succ_of_le hb) (by decide),
    field_write_other (by decide) (Nat.lt_succ_of_le ht) (by decide),
    field_write_other (by decide) (Nat.lt_succ_of_le hl) (by decide)]
  decide +kernel

end Fields

end ReserveConfigurationMap

end ElectroLend
