import ElectroLend.Errors

namespace ElectroLend

open Outcome

structure UserConfigurationMap where
  data : BitVec 256
  deriving DecidableEq, Repr

namespace UserConfigurationMap

def BORROWING_MASK : BitVec 256 :=
  0x5555555555555555555555555555555555555555555555555555555555555555

/-- Both bit sets are written one bit at a time, at twice the reserve index or one above. -/
def setBit (self : UserConfigurationMap) (position : Nat) (value : Bool) : UserConfigurationMap :=
  ⟨(self.data &&& ~~~((1 : BitVec 256) <<< position)) |||
    (BitVec.ofNat 256 value.toNat <<< position)⟩

def setBorrowing (self : UserConfigurationMap) (reserveIndex : Nat) (borrowing : Bool) :
    Result UserConfigurationMap := do
  require (reserveIndex < 128) .ulInvalidIndex
  pure (self.setBit (reserveIndex * 2) borrowing)

def setUsingAsCollateral (self : UserConfigurationMap) (reserveIndex : Nat)
    (usingAsCollateral : Bool) : Result UserConfigurationMap := do
  require (reserveIndex < 128) .ulInvalidIndex
  pure (self.setBit (reserveIndex * 2 + 1) usingAsCollateral)

def isUsingAsCollateralOrBorrowing (self : UserConfigurationMap) (reserveIndex : Nat) :
    Result Bool := do
  require (reserveIndex < 128) .ulInvalidIndex
  pure ((self.data >>> (reserveIndex * 2)) &&& 3 != 0)

def isBorrowing (self : UserConfigurationMap) (reserveIndex : Nat) : Result Bool := do
  require (reserveIndex < 128) .ulInvalidIndex
  pure ((self.data >>> (reserveIndex * 2)) &&& 1 != 0)

def isUsingAsCollateral (self : UserConfigurationMap) (reserveIndex : Nat) : Result Bool := do
  require (reserveIndex < 128) .ulInvalidIndex
  pure ((self.data >>> (reserveIndex * 2 + 1)) &&& 1 != 0)

def isBorrowingAny (self : UserConfigurationMap) : Bool := self.data &&& BORROWING_MASK != 0

def isEmpty (self : UserConfigurationMap) : Bool := self.data == 0

/-- The borrowing bit of a reserve. -/
def borrowingBit (self : UserConfigurationMap) (reserveIndex : Nat) : Bool :=
  self.data.getLsbD (reserveIndex * 2)

/-- The collateral bit of a reserve. -/
def collateralBit (self : UserConfigurationMap) (reserveIndex : Nat) : Bool :=
  self.data.getLsbD (reserveIndex * 2 + 1)

theorem shift_and_one (x : BitVec 256) (k : Nat) : ((x >>> k) &&& 1 != 0) = x.getLsbD k := by
  have bits : ∀ i, ((x >>> k) &&& 1).getLsbD i = (decide (i = 0) && x.getLsbD k) := by
    intro i
    rcases Nat.eq_zero_or_pos i with rfl | hpos
    · simp
    · simp [Nat.ne_of_gt hpos]
  cases hb : x.getLsbD k with
  | false =>
    have hz : (x >>> k) &&& 1 = 0 := by
      apply BitVec.eq_of_getLsbD_eq
      intro i _
      rw [bits, hb]
      simp
    rw [hz]
    rfl
  | true =>
    rw [bne_iff_ne]
    intro hz
    have hbit := bits 0
    rw [hz, hb] at hbit
    simp at hbit

theorem setBit_getLsbD (self : UserConfigurationMap) {k : Nat} (hk : k < 256) (value : Bool)
    (j : Nat) :
    (self.setBit k value).data.getLsbD j = if j = k then value else self.data.getLsbD j := by
  have value_bit : ∀ i, (BitVec.ofNat 256 value.toNat).getLsbD i = (decide (i = 0) && value) := by
    intro i
    cases value with
    | false => simp
    | true =>
      rcases Nat.eq_zero_or_pos i with rfl | hpos
      · simp
      · simp [Nat.ne_of_gt hpos]
  have one_bit : ∀ i, (1 : BitVec 256).getLsbD i = decide (i = 0) := by
    intro i
    rcases Nat.eq_zero_or_pos i with rfl | hpos
    · simp
    · simp [Nat.ne_of_gt hpos]
  unfold setBit
  simp only [BitVec.getLsbD_or, BitVec.getLsbD_and, BitVec.getLsbD_not, BitVec.getLsbD_shiftLeft,
    value_bit, one_bit]
  rcases Nat.lt_trichotomy j k with hlt | rfl | hgt
  · have hj : j < 256 := by omega
    simp [hlt, hj, Nat.ne_of_lt hlt]
  · simp [hk]
  · have hne : ¬ j - k = 0 := by omega
    have hnlt : ¬ j < k := by omega
    by_cases hj : j < 256
    · simp [hne, hnlt, hj, Nat.ne_of_gt hgt]
    · simp [hne, hj, Nat.ne_of_gt hgt, BitVec.getLsbD_of_ge self.data j (by omega)]

section Bits

variable {self self' : UserConfigurationMap} {i : Nat} {value answer : Bool}

theorem setBorrowing_eq_ok (h : self.setBorrowing i value = .ok self') :
    i < 128 ∧ (∀ j, self'.borrowingBit j = if j = i then value else self.borrowingBit j) ∧
      ∀ j, self'.collateralBit j = self.collateralBit j := by
  simp only [setBorrowing, bind_eq_ok, require_eq_ok, pure_eq_ok] at h
  obtain ⟨_, hi, rfl⟩ := h
  refine ⟨hi, ?_, ?_⟩
  · intro j
    unfold borrowingBit
    rw [setBit_getLsbD self (by omega)]
    simp only [show j * 2 = i * 2 ↔ j = i by omega]
  · intro j
    unfold collateralBit
    rw [setBit_getLsbD self (by omega), if_neg (by omega)]

theorem setUsingAsCollateral_eq_ok (h : self.setUsingAsCollateral i value = .ok self') :
    i < 128 ∧ (∀ j, self'.collateralBit j = if j = i then value else self.collateralBit j) ∧
      ∀ j, self'.borrowingBit j = self.borrowingBit j := by
  simp only [setUsingAsCollateral, bind_eq_ok, require_eq_ok, pure_eq_ok] at h
  obtain ⟨_, hi, rfl⟩ := h
  refine ⟨hi, ?_, ?_⟩
  · intro j
    unfold collateralBit
    rw [setBit_getLsbD self (by omega)]
    simp only [show j * 2 + 1 = i * 2 + 1 ↔ j = i by omega]
  · intro j
    unfold borrowingBit
    rw [setBit_getLsbD self (by omega), if_neg (by omega)]

theorem exists_setBorrowing (self : UserConfigurationMap) (hi : i < 128) (value : Bool) :
    ∃ self', self.setBorrowing i value = .ok self' := by
  simp only [setBorrowing, bind_eq_ok, require_eq_ok, pure_eq_ok]
  exact ⟨_, (), hi, rfl⟩

theorem exists_setUsingAsCollateral (self : UserConfigurationMap) (hi : i < 128) (value : Bool) :
    ∃ self', self.setUsingAsCollateral i value = .ok self' := by
  simp only [setUsingAsCollateral, bind_eq_ok, require_eq_ok, pure_eq_ok]
  exact ⟨_, (), hi, rfl⟩

theorem isBorrowing_eq_ok : self.isBorrowing i = .ok answer ↔
    i < 128 ∧ self.borrowingBit i = answer := by
  simp only [isBorrowing, bind_eq_ok, require_eq_ok, pure_eq_ok, exists_const, shift_and_one]
  rfl

theorem isUsingAsCollateralOrBorrowing_eq_ok :
    self.isUsingAsCollateralOrBorrowing i = .ok answer ↔
      i < 128 ∧ (self.borrowingBit i || self.collateralBit i) = answer := by
  simp only [isUsingAsCollateralOrBorrowing, bind_eq_ok, require_eq_ok, pure_eq_ok, exists_const]
  have three : ∀ j, (3 : BitVec 256).getLsbD j = decide (j < 2) := by
    intro j
    rcases j with _ | _ | j
    · rfl
    · rfl
    · simp [BitVec.getLsbD, Nat.testBit_succ]
  have bits : ∀ j, ((self.data >>> (i * 2)) &&& 3).getLsbD j =
      (self.data.getLsbD (i * 2 + j) && decide (j < 2)) := by
    intro j
    rw [BitVec.getLsbD_and, BitVec.getLsbD_ushiftRight, three]
  have both : ((self.data >>> (i * 2)) &&& 3 != 0) =
      (self.borrowingBit i || self.collateralBit i) := by
    unfold borrowingBit collateralBit
    cases hb : self.data.getLsbD (i * 2) with
    | true =>
      rw [Bool.true_or, bne_iff_ne]
      intro hz
      have hbit := bits 0
      rw [hz] at hbit
      simp [hb] at hbit
    | false =>
      cases hc : self.data.getLsbD (i * 2 + 1) with
      | true =>
        rw [Bool.false_or, bne_iff_ne]
        intro hz
        have hbit := bits 1
        rw [hz] at hbit
        simp [hc] at hbit
      | false =>
        have hz : (self.data >>> (i * 2)) &&& 3 = 0 := by
          apply BitVec.eq_of_getLsbD_eq
          intro j _
          rw [bits]
          rcases j with _ | _ | j
          · simp [hb]
          · simp [hc]
          · simp
        rw [hz]
        rfl
  rw [both]

theorem isUsingAsCollateral_eq_ok : self.isUsingAsCollateral i = .ok answer ↔
    i < 128 ∧ self.collateralBit i = answer := by
  simp only [isUsingAsCollateral, bind_eq_ok, require_eq_ok, pure_eq_ok, exists_const,
    shift_and_one]
  rfl

theorem isEmpty_collateralBit (h : self.isEmpty = true) (j : Nat) :
    self.collateralBit j = false := by
  have hz : self.data = 0 := by simpa [isEmpty] using h
  simp [collateralBit, hz]

theorem isEmpty_borrowingBit (h : self.isEmpty = true) (j : Nat) :
    self.borrowingBit j = false := by
  have hz : self.data = 0 := by simpa [isEmpty] using h
  simp [borrowingBit, hz]

theorem isBorrowingAny_eq_false :
    self.isBorrowingAny = false ↔ ∀ j, self.borrowingBit j = false := by
  have mask : ∀ i, i < 256 → BORROWING_MASK.getLsbD i = decide (i % 2 = 0) := by decide +kernel
  have hz : self.isBorrowingAny = false ↔ self.data &&& BORROWING_MASK = 0 := by
    simp [isBorrowingAny]
  rw [hz]
  constructor
  · intro hz j
    by_cases hj : j < 128
    · have hbit := congrArg (fun data => data.getLsbD (j * 2)) hz
      simpa [borrowingBit, mask (j * 2) (by omega)] using hbit
    · exact BitVec.getLsbD_of_ge _ _ (by omega)
  · intro hnone
    apply BitVec.eq_of_getLsbD_eq
    intro i hi
    rw [BitVec.getLsbD_and, mask i hi]
    by_cases heven : i % 2 = 0
    · have hbit : self.data.getLsbD (i / 2 * 2) = false := hnone (i / 2)
      rw [show i / 2 * 2 = i by omega] at hbit
      simp [hbit]
    · simp [heven]

end Bits

end UserConfigurationMap

end ElectroLend
