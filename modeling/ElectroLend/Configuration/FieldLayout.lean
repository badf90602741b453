import ElectroLend.Configuration.ReserveConfiguration
import ElectroLend.Library.LastWrite

namespace ElectroLend

open Outcome LastWrite

/-- The nine fields of a configuration word. -/
inductive ConfigurationField
  | ltv
  | liquidationThreshold
  | liquidationBonus
  | decimals
  | active
  | frozen
  | borrowing
  | stableBorrowing
  | reserveFactor
  deriving DecidableEq, Repr

namespace ConfigurationField

def start : ConfigurationField → Nat
  | ltv => 0
  | liquidationThreshold => LIQUIDATION_THRESHOLD_START_BIT_POSITION
  | liquidationBonus => LIQUIDATION_BONUS_START_BIT_POSITION
  | decimals => RESERVE_DECIMALS_START_BIT_POSITION
  | active => IS_ACTIVE_START_BIT_POSITION
  | frozen => IS_FROZEN_START_BIT_POSITION
  | borrowing => BORROWING_ENABLED_START_BIT_POSITION
  | stableBorrowing => STABLE_BORROWING_ENABLED_START_BIT_POSITION
  | reserveFactor => RESERVE_FACTOR_START_BIT_POSITION

def width : ConfigurationField → Nat
  | ltv | liquidationThreshold | liquidationBonus | reserveFactor => 16
  | decimals => 8
  | active | frozen | borrowing | stableBorrowing => 1

def mask : ConfigurationField → BitVec 256
  | ltv => LTV_MASK
  | liquidationThreshold => LIQUIDATION_THRESHOLD_MASK
  | liquidationBonus => LIQUIDATION_BONUS_MASK
  | decimals => DECIMALS_MASK
  | active => ACTIVE_MASK
  | frozen => FROZEN_MASK
  | borrowing => BORROWING_MASK
  | stableBorrowing => STABLE_BORROWING_MASK
  | reserveFactor => RESERVE_FACTOR_MASK

theorem mask_eq (f : ConfigurationField) : f.mask = BitField.mask 256 f.start f.width := by
  cases f with
  | ltv => exact ReserveConfigurationMap.ltv_mask
  | liquidationThreshold => exact ReserveConfigurationMap.liquidationThreshold_mask
  | liquidationBonus => exact ReserveConfigurationMap.liquidationBonus_mask
  | decimals => exact ReserveConfigurationMap.decimals_mask
  | active => exact ReserveConfigurationMap.active_mask
  | frozen => exact ReserveConfigurationMap.frozen_mask
  | borrowing => exact ReserveConfigurationMap.borrowing_mask
  | stableBorrowing => exact ReserveConfigurationMap.stableBorrowing_mask
  | reserveFactor => exact ReserveConfigurationMap.reserveFactor_mask

theorem in_word (f : ConfigurationField) : f.start + f.width ≤ 256 := by
  cases f <;> decide

theorem apart {f g : ConfigurationField} (hne : g ≠ f) :
    g.start + g.width ≤ f.start ∨ f.start + f.width ≤ g.start := by
  cases f <;> cases g <;> first | exact absurd rfl hne | decide

/-- A bit of the word that belongs to no field. -/
def Reserved (i : Nat) : Prop := ∀ f : ConfigurationField, ¬(f.start ≤ i ∧ i < f.start + f.width)

end ConfigurationField

namespace ReserveConfigurationMap

variable {self self' : ReserveConfigurationMap} {value : Nat}

/-- The number stored in a field. -/
def stored (self : ReserveConfigurationMap) (f : ConfigurationField) : Nat := self.field f.mask f.start

theorem write_stored {f g : ConfigurationField} (hv : value < 2 ^ f.width) :
    (self.write f.mask f.start value).stored g = if g = f then value else self.stored g := by
  unfold stored
  split
  next heq =>
    subst heq
    rw [g.mask_eq]
    exact field_write_same g.in_word hv
  next hne =>
    rw [f.mask_eq, g.mask_eq]
    exact field_write_other f.in_word hv (ConfigurationField.apart hne)

theorem write_reserved {f : ConfigurationField} (hv : value < 2 ^ f.width) {i : Nat}
    (hi : ConfigurationField.Reserved i) :
    (self.write f.mask f.start value).data.getLsbD i = self.data.getLsbD i := by
  rw [f.mask_eq]
  exact BitField.write_getLsbD_outside self.data f.in_word hv (hi f)

/-- The getter of each field. -/
def getter (self : ReserveConfigurationMap) : ConfigurationField → Nat
  | .ltv => self.getLtv
  | .liquidationThreshold => self.getLiquidationThreshold
  | .liquidationBonus => self.getLiquidationBonus
  | .decimals => self.getDecimals
  | .active => self.getActive.toNat
  | .frozen => self.getFrozen.toNat
  | .borrowing => self.getBorrowingEnabled.toNat
  | .stableBorrowing => self.getStableRateBorrowingEnabled.toNat
  | .reserveFactor => self.getReserveFactor

/-- The component of each field in the answers of `getParams` and `getFlags`. -/
def component (params : Params) (flags : Flags) : ConfigurationField → Nat
  | .ltv => params.ltv
  | .liquidationThreshold => params.liquidationThreshold
  | .liquidationBonus => params.liquidationBonus
  | .decimals => params.decimals
  | .active => flags.isActive.toNat
  | .frozen => flags.isFrozen.toNat
  | .borrowing => flags.borrowingEnabled.toNat
  | .stableBorrowing => flags.stableRateBorrowingEnabled.toNat
  | .reserveFactor => params.reserveFactor

/-- All three families show the same values. -/
structure Shows (config : ReserveConfigurationMap) (values : ConfigurationField → Nat) : Prop where
  getters : config.getter = values
  components : component config.getParams config.getFlags = values
  componentsMemory : component config.getParamsMemory config.getFlagsMemory = values

theorem flag_toNat {f : ConfigurationField} (hw : f.width = 1) :
    (self.flag f.mask).toNat = self.stored f := by
  have low : self.stored f < 2 ^ f.width := by
    unfold stored
    rw [f.mask_eq]
    exact BitField.read_lt self.data
  have zero : self.stored f = 0 ↔ self.data &&& ~~~f.mask = 0 := by
    unfold stored
    rw [f.mask_eq]
    exact BitField.read_eq_zero self.data
  rw [hw] at low
  unfold flag
  by_cases hz : self.data &&& ~~~f.mask = 0
  · simp [hz, zero.mpr hz]
  · have hne := mt zero.mp hz
    have one : self.stored f = 1 := by omega
    rw [bne_iff_ne.mpr hz, one]
    rfl

theorem getter_eq_stored (f : ConfigurationField) : self.getter f = self.stored f := by
  cases f with
  | active => exact flag_toNat (f := .active) rfl
  | frozen => exact flag_toNat (f := .frozen) rfl
  | borrowing => exact flag_toNat (f := .borrowing) rfl
  | stableBorrowing => exact flag_toNat (f := .stableBorrowing) rfl
  | _ => rfl

theorem shows_stored (self : ReserveConfigurationMap) : self.Shows self.stored := by
  have getters : self.getter = self.stored := funext getter_eq_stored
  have components : component self.getParams self.getFlags = self.getter := by
    funext f
    cases f <;> rfl
  have componentsMemory : component self.getParamsMemory self.getFlagsMemory = self.getter := by
    funext f
    cases f <;> rfl
  exact ⟨getters, components.trans getters, componentsMemory.trans getters⟩

end ReserveConfigurationMap

inductive SetterCall
  | setLtv (ltv : Nat)
  | setLiquidationThreshold (threshold : Nat)
  | setLiquidationBonus (bonus : Nat)
  | setDecimals (decimals : Nat)
  | setActive (active : Bool)
  | setFrozen (frozen : Bool)
  | setBorrowingEnabled (enabled : Bool)
  | setStableRateBorrowingEnabled (enabled : Bool)
  | setReserveFactor (reserveFactor : Nat)

namespace SetterCall

open ReserveConfigurationMap

variable {self self' : ReserveConfigurationMap}

def exec (self : ReserveConfigurationMap) : SetterCall → Result ReserveConfigurationMap
  | .setLtv ltv => self.setLtv ltv
  | .setLiquidationThreshold threshold => self.setLiquidationThreshold threshold
  | .setLiquidationBonus bonus => self.setLiquidationBonus bonus
  | .setDecimals decimals => self.setDecimals decimals
  | .setActive active => .ok (self.setActive active)
  | .setFrozen frozen => .ok (self.setFrozen frozen)
  | .setBorrowingEnabled enabled => .ok (self.setBorrowingEnabled enabled)
  | .setStableRateBorrowingEnabled enabled => .ok (self.setStableRateBorrowingEnabled enabled)
  | .setReserveFactor reserveFactor => self.setReserveFactor reserveFactor

def field : SetterCall → ConfigurationField
  | setLtv _ => .ltv
  | setLiquidationThreshold _ => .liquidationThreshold
  | setLiquidationBonus _ => .liquidationBonus
  | setDecimals _ => .decimals
  | setActive _ => .active
  | setFrozen _ => .frozen
  | setBorrowingEnabled _ => .borrowing
  | setStableRateBorrowingEnabled _ => .stableBorrowing
  | setReserveFactor _ => .reserveFactor

def written : SetterCall → Nat
  | setLtv n | setLiquidationThreshold n | setLiquidationBonus n | setDecimals n
  | setReserveFactor n => n
  | setActive b | setFrozen b | setBorrowingEnabled b | setStableRateBorrowingEnabled b => b.toNat

abbrev InRange (call : SetterCall) : Prop := call.written < 2 ^ call.field.width

theorem guarded_eq_ok {n bound limit : Nat} {e : Errors} {result : ReserveConfigurationMap}
    (hlimit : bound + 1 = limit) :
    (do
      require (n ≤ bound) e
      pure result) = (Except.ok self' : Result ReserveConfigurationMap) ↔
      n < limit ∧ self' = result := by
  have hiff : n ≤ bound ↔ n < limit := by omega
  simp only [bind_eq_ok, require_eq_ok, pure_eq_ok, exists_const, hiff]
  rw [eq_comm]

theorem exec_eq_ok (call : SetterCall) :
    call.exec self = .ok self' ↔
      call.InRange ∧ self' = self.write call.field.mask call.field.start call.written := by
  have flags : ∀ b result, (Except.ok result : Result ReserveConfigurationMap) = .ok self' ↔
      Bool.toNat b < 2 ^ 1 ∧ self' = result := by
    intro b result
    rw [Except.ok.injEq, eq_comm]
    exact ⟨fun h => ⟨bool_toNat_lt b, h⟩, fun h => h.2⟩
  cases call with
  | setLtv ltv => exact guarded_eq_ok rfl
  | setLiquidationThreshold threshold => exact guarded_eq_ok rfl
  | setLiquidationBonus bonus => exact guarded_eq_ok rfl
  | setDecimals decimals => exact guarded_eq_ok rfl
  | setActive active => exact flags active _
  | setFrozen frozen => exact flags frozen _
  | setBorrowingEnabled enabled => exact flags enabled _
  | setStableRateBorrowingEnabled enabled => exact flags enabled _
  | setReserveFactor reserveFactor => exact guarded_eq_ok rfl

theorem exec_shows {call : SetterCall} {values : ConfigurationField → Nat} (shows : self.Shows values)
    (h : call.exec self = .ok self') :
    self'.Shows (Function.update values call.field call.written) ∧
      ∀ i, ConfigurationField.Reserved i → self'.data.getLsbD i = self.data.getLsbD i := by
  obtain ⟨inRange, rfl⟩ := (exec_eq_ok call).mp h
  have same : values = self.stored := by rw [← shows.getters, (shows_stored self).getters]
  have stored : (self.write call.field.mask call.field.start call.written).stored =
      Function.update values call.field call.written := by
    funext f
    rw [write_stored inRange, same, Function.update_apply]
  exact ⟨stored ▸ shows_stored _, fun i hi => write_reserved inRange hi⟩

end SetterCall

def ReserveConfigurationMap.configure (self : ReserveConfigurationMap) :
    List SetterCall → ReserveConfigurationMap
  | [] => self
  | call :: rest =>
    match call.exec self with
    | .ok self => configure self rest
    | .error _ => configure self rest

def SetterCall.writes (calls : List SetterCall) : List (ConfigurationField × Nat) :=
  (calls.filter fun call => call.InRange).map fun call => (call.field, call.written)

end ElectroLend
