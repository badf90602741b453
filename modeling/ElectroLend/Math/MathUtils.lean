import ElectroLend.Math.WadRayMath

namespace ElectroLend

open Outcome

def PERCENTAGE_FACTOR : Nat := 10 ^ 4
def HALF_PERCENT : Nat := PERCENTAGE_FACTOR / 2

def percentMul (value percentage : Nat) : Result Nat :=
  if value = 0 ∨ percentage = 0 then .ok 0
  else do
    require (value ≤ (uint256Max - HALF_PERCENT) / percentage) .mathMultiplicationOverflow
    pure (wrap (wrap (value * percentage) + HALF_PERCENT) / PERCENTAGE_FACTOR)

def percentDiv (value percentage : Nat) : Result Nat := do
  require (percentage ≠ 0) .mathDivisionByZero
  let halfPercentage := percentage / 2
  require (value ≤ (uint256Max - halfPercentage) / PERCENTAGE_FACTOR) .mathMultiplicationOverflow
  pure (wrap (wrap (value * PERCENTAGE_FACTOR) + halfPercentage) / percentage)

theorem percentMul_eq {a p : Nat} :
    percentMul a p =
      exactQuotient (a * p + HALF_PERCENT) PERCENTAGE_FACTOR .mathMultiplicationOverflow :=
  mulHalfUp_eq (by decide) (by decide)

theorem percentDiv_eq {a p : Nat} (hp : p ≤ uint256Max) :
    percentDiv a p =
      exactQuotient (a * PERCENTAGE_FACTOR + p / 2) p .mathMultiplicationOverflow :=
  divHalfUp_eq (by decide) hp

theorem percentMul_eq_ok {a p c : Nat} :
    percentMul a p = .ok c ↔
      a * p + HALF_PERCENT ≤ uint256Max ∧ halfUp (a * p) PERCENTAGE_FACTOR = c := by
  rw [percentMul_eq, exactQuotient_eq_ok]
  exact and_iff_right (by decide)

theorem percentDiv_eq_ok {a p c : Nat} :
    percentDiv a p = .ok c ↔
      (p ≠ 0 ∧ a ≤ (uint256Max - p / 2) / PERCENTAGE_FACTOR) ∧
        halfUp (a * PERCENTAGE_FACTOR) p = c :=
  divHalfUp_eq_ok (by decide)

theorem percentMul_le {a p c : Nat} (hp : p ≤ PERCENTAGE_FACTOR) (h : percentMul a p = .ok c) :
    c ≤ a := by
  obtain ⟨_, rfl⟩ := percentMul_eq_ok.mp h
  exact HalfUp.le_of_le_mul (Nat.mul_le_mul_left a hp) (by decide)

/-- 365 days, in seconds. -/
def SECONDS_PER_YEAR : Nat := 365 * 24 * 60 * 60

def calculateLinearInterest (rate lastUpdateTimestamp blockTimestamp : Nat) : Result Nat := do
  let timeDifference ←
    SafeMath.sub blockTimestamp lastUpdateTimestamp .safeMathSubtractionOverflow
  let accrued ← SafeMath.mul rate timeDifference
  SafeMath.add (accrued / SECONDS_PER_YEAR) RAY

def calculateCompoundedInterest (rate lastUpdateTimestamp currentTimestamp : Nat) :
    Result Nat := do
  let exp ← SafeMath.sub currentTimestamp lastUpdateTimestamp .safeMathSubtractionOverflow
  if exp = 0 then .ok RAY
  else do
    let expMinusOne := exp - 1
    let expMinusTwo := if exp > 2 then exp - 2 else 0
    let ratePerSecond := rate / SECONDS_PER_YEAR
    let basePowerTwo ← rayMul ratePerSecond ratePerSecond
    let basePowerThree ← rayMul basePowerTwo ratePerSecond
    let pairs ← SafeMath.mul exp expMinusOne
    let secondProduct ← SafeMath.mul pairs basePowerTwo
    let secondTerm := secondProduct / 2
    let triples ← SafeMath.mul pairs expMinusTwo
    let thirdProduct ← SafeMath.mul triples basePowerThree
    let thirdTerm := thirdProduct / 6
    let firstTerm ← SafeMath.mul ratePerSecond exp
    let linear ← SafeMath.add RAY firstTerm
    let quadratic ← SafeMath.add linear secondTerm
    SafeMath.add quadratic thirdTerm

theorem calculateLinearInterest_eq_ok {rate last now c : Nat} :
    calculateLinearInterest rate last now = .ok c ↔
      (last ≤ now ∧ rate * (now - last) ≤ uint256Max ∧
        rate * (now - last) / SECONDS_PER_YEAR + RAY ≤ uint256Max) ∧
      rate * (now - last) / SECONDS_PER_YEAR + RAY = c := by
  simp only [calculateLinearInterest, bind_eq_ok, SafeMath.sub_eq_ok, SafeMath.mul_eq_ok,
    SafeMath.add_eq_ok]
  constructor
  · rintro ⟨_, ⟨ht, rfl⟩, _, ⟨hm, rfl⟩, ha, rfl⟩
    exact ⟨⟨ht, hm, ha⟩, rfl⟩
  · rintro ⟨⟨ht, hm, ha⟩, rfl⟩
    exact ⟨_, ⟨ht, rfl⟩, _, ⟨hm, rfl⟩, ha, rfl⟩

theorem calculateLinearInterest_ge {rate last now c : Nat}
    (h : calculateLinearInterest rate last now = .ok c) : RAY ≤ c := by
  obtain ⟨_, rfl⟩ := calculateLinearInterest_eq_ok.mp h
  exact Nat.le_add_left _ _

theorem calculateLinearInterest_self {rate t c : Nat}
    (h : calculateLinearInterest rate t t = .ok c) : c = RAY := by
  obtain ⟨_, rfl⟩ := calculateLinearInterest_eq_ok.mp h
  simp

theorem calculateLinearInterest_zero_rate {last now c : Nat}
    (h : calculateLinearInterest 0 last now = .ok c) : c = RAY := by
  obtain ⟨_, rfl⟩ := calculateLinearInterest_eq_ok.mp h
  simp

theorem calculateCompoundedInterest_self (rate t : Nat) :
    calculateCompoundedInterest rate t t = .ok RAY := by
  simp [calculateCompoundedInterest, SafeMath.sub]

end ElectroLend
