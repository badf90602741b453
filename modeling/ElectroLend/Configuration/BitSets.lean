import ElectroLend.Configuration.UserConfiguration
import ElectroLend.Library.LastWrite

namespace ElectroLend

open Outcome LastWrite

/-- The two kinds of bits a user has for each reserve. -/
inductive UserBit
  | borrowing
  | usingAsCollateral
  deriving DecidableEq, Repr

/-- One call of `setBorrowing` or `setUsingAsCollateral`. -/
structure BitCall where
  bit : UserBit
  reserveIndex : Nat
  value : Bool
  deriving Repr

namespace BitCall

def exec (call : BitCall) (self : UserConfigurationMap) : Result UserConfigurationMap :=
  match call.bit with
  | .borrowing => self.setBorrowing call.reserveIndex call.value
  | .usingAsCollateral => self.setUsingAsCollateral call.reserveIndex call.value

/-- What a call writes, and where. -/
def write (call : BitCall) : (UserBit × Nat) × Bool := ((call.bit, call.reserveIndex), call.value)

end BitCall

namespace UserConfigurationMap

variable {self self' : UserConfigurationMap} {call : BitCall} {bits : UserBit × Nat → Bool}

def setAll (self : UserConfigurationMap) : List BitCall → Result UserConfigurationMap
  | [] => .ok self
  | call :: rest => do
    let self ← call.exec self
    setAll self rest

/-- The five views read the word as these two sets of reserve indexes. -/
structure Views (config : UserConfigurationMap) (bits : UserBit × Nat → Bool) : Prop where
  isBorrowing : ∀ j, j < 128 → config.isBorrowing j = .ok (bits (.borrowing, j))
  isUsingAsCollateral : ∀ j, j < 128 →
    config.isUsingAsCollateral j = .ok (bits (.usingAsCollateral, j))
  isUsingAsCollateralOrBorrowing : ∀ j, j < 128 → config.isUsingAsCollateralOrBorrowing j =
    .ok (bits (.borrowing, j) || bits (.usingAsCollateral, j))
  isBorrowingAny : config.isBorrowingAny = true ↔ ∃ j < 128, bits (.borrowing, j) = true
  isEmpty : config.isEmpty = true ↔
    ∀ j < 128, bits (.borrowing, j) = false ∧ bits (.usingAsCollateral, j) = false

def bitAt (self : UserConfigurationMap) : UserBit × Nat → Bool
  | (.borrowing, j) => self.borrowingBit j
  | (.usingAsCollateral, j) => self.collateralBit j

/-- The word is zero exactly when no bit of either kind is set: every position is one of them. -/
theorem isEmpty_iff : self.isEmpty = true ↔
    ∀ j < 128, self.borrowingBit j = false ∧ self.collateralBit j = false := by
  constructor
  · intro hempty j _
    exact ⟨isEmpty_borrowingBit hempty j, isEmpty_collateralBit hempty j⟩
  · intro hclear
    have hz : self.data = 0 := by
      apply BitVec.eq_of_getLsbD_eq
      intro i hi
      obtain ⟨hborrowing, hcollateral⟩ := hclear (i / 2) (by omega)
      rw [show (0 : BitVec 256).getLsbD i = false from BitVec.getLsbD_zero]
      rcases Nat.mod_two_eq_zero_or_one i with heven | hodd
      · rw [borrowingBit, show i / 2 * 2 = i by omega] at hborrowing
        exact hborrowing
      · rw [collateralBit, show i / 2 * 2 + 1 = i by omega] at hcollateral
        exact hcollateral
    simp [isEmpty, hz]

theorem isBorrowingAny_iff : self.isBorrowingAny = true ↔ ∃ j < 128, self.borrowingBit j = true := by
  rw [← Bool.not_eq_false, isBorrowingAny_eq_false]
  constructor
  · intro hsome
    by_contra hnone
    apply hsome
    intro j
    by_cases hj : j < 128
    · cases hbit : self.borrowingBit j with
      | false => rfl
      | true => exact absurd ⟨j, hj, hbit⟩ hnone
    · exact BitVec.getLsbD_of_ge _ _ (by omega)
  · rintro ⟨j, _, hbit⟩ hnone
    rw [hnone j] at hbit
    cases hbit

theorem views_bitAt (self : UserConfigurationMap) : self.Views self.bitAt where
  isBorrowing _ hj := isBorrowing_eq_ok.mpr ⟨hj, rfl⟩
  isUsingAsCollateral _ hj := isUsingAsCollateral_eq_ok.mpr ⟨hj, rfl⟩
  isUsingAsCollateralOrBorrowing _ hj := isUsingAsCollateralOrBorrowing_eq_ok.mpr ⟨hj, rfl⟩
  isBorrowingAny := isBorrowingAny_iff
  isEmpty := isEmpty_iff

theorem exec_bitAt (self : UserConfigurationMap) (hi : call.reserveIndex < 128) :
    ∃ self', call.exec self = .ok self' ∧
      self'.bitAt = Function.update self.bitAt (call.bit, call.reserveIndex) call.value := by
  obtain ⟨bit, i, value⟩ := call
  cases bit with
  | borrowing =>
    obtain ⟨self', hset⟩ := exists_setBorrowing self hi value
    obtain ⟨_, same, other⟩ := setBorrowing_eq_ok hset
    refine ⟨self', hset, ?_⟩
    funext ⟨kind, j⟩
    cases kind with
    | borrowing => simp [bitAt, same j, Function.update_apply]
    | usingAsCollateral => simp [bitAt, other j]
  | usingAsCollateral =>
    obtain ⟨self', hset⟩ := exists_setUsingAsCollateral self hi value
    obtain ⟨_, same, other⟩ := setUsingAsCollateral_eq_ok hset
    refine ⟨self', hset, ?_⟩
    funext ⟨kind, j⟩
    cases kind with
    | borrowing => simp [bitAt, other j]
    | usingAsCollateral => simp [bitAt, same j, Function.update_apply]

/-- A sequence of calls overwrites the bits in order. -/
theorem setAll_bitAt (self : UserConfigurationMap) {calls : List BitCall}
    (inRange : ∀ call ∈ calls, call.reserveIndex < 128) :
    ∃ self', self.setAll calls = .ok self' ∧
      self'.bitAt = overwrite self.bitAt (calls.map BitCall.write) := by
  induction calls generalizing self with
  | nil => exact ⟨self, rfl, rfl⟩
  | cons call rest ih =>
    obtain ⟨middle, hexec, hmiddle⟩ := exec_bitAt self (inRange call (List.mem_cons_self ..))
    obtain ⟨self', hrest, hbits⟩ := ih middle fun c hc => inRange c (List.mem_cons_of_mem _ hc)
    refine ⟨self', ?_, ?_⟩
    · rw [setAll, hexec]
      exact hrest
    · rw [hbits, hmiddle]
      rfl

end UserConfigurationMap

end ElectroLend
