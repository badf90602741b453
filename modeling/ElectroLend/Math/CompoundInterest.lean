import ElectroLend.Math.MathUtils
import ElectroLend.Library.TruncatedBinomial

namespace ElectroLend

open Outcome

variable {rate last now c : Nat}

/-- What one ray becomes in some seconds: the first terms of a power. -/
def compoundFactor (rate seconds : Nat) : Nat :=
  TruncatedBinomial.power RAY (rate / SECONDS_PER_YEAR) seconds

theorem compoundFactor_mono {rate' seconds seconds' : Nat} (hrate : rate ≤ rate')
    (hseconds : seconds ≤ seconds') : compoundFactor rate seconds ≤ compoundFactor rate' seconds' := by
  have base : compoundFactor rate seconds ≤ compoundFactor rate' seconds :=
    TruncatedBinomial.power_mono_base (Nat.div_le_div_right hrate)
  exact base.trans (TruncatedBinomial.power_mono hseconds)

theorem expMinusTwo_eq (exp : Nat) : (if exp > 2 then exp - 2 else 0) = exp - 2 := by
  split <;> omega

theorem calculateCompoundedInterest_eq (h : calculateCompoundedInterest rate last now = .ok c) :
    last ≤ now ∧ c = compoundFactor rate (now - last) := by
  simp only [calculateCompoundedInterest, bind_eq_ok, SafeMath.sub_eq_ok] at h
  obtain ⟨_, ⟨hle, rfl⟩, h⟩ := h
  refine ⟨hle, ?_⟩
  split at h
  next hz =>
    cases Except.ok.inj h
    rw [compoundFactor, hz, TruncatedBinomial.power_zero]
  next hz =>
    simp only [bind_eq_ok, SafeMath.mul_eq_ok, SafeMath.add_eq_ok, rayMul_eq_ok, expMinusTwo_eq] at h
    obtain ⟨two, ⟨_, htwo⟩, three, ⟨_, hthree⟩, _, ⟨_, rfl⟩, _, ⟨_, rfl⟩, _, ⟨_, rfl⟩, _, ⟨_, rfl⟩, _,
      ⟨_, rfl⟩, _, ⟨_, rfl⟩, _, ⟨_, rfl⟩, _, rfl⟩ := h
    rw [← TruncatedBinomial.square] at htwo
    rw [← htwo, ← TruncatedBinomial.cube] at hthree
    rw [compoundFactor, TruncatedBinomial.power, ← TruncatedBinomial.pairs_term,
      ← TruncatedBinomial.triples_term, htwo, hthree]

/-- The compounded factor is one ray plus the simple interest of whole seconds, or more. -/
theorem calculateCompoundedInterest_ge_linear (h : calculateCompoundedInterest rate last now = .ok c) :
    last ≤ now ∧ RAY + rate / SECONDS_PER_YEAR * (now - last) ≤ c := by
  obtain ⟨hle, rfl⟩ := calculateCompoundedInterest_eq h
  exact ⟨hle, TruncatedBinomial.linear_le_power⟩

theorem calculateCompoundedInterest_ge (h : calculateCompoundedInterest rate last now = .ok c) :
    RAY ≤ c := by
  obtain ⟨_, rfl⟩ := calculateCompoundedInterest_eq h
  exact TruncatedBinomial.unit_le_power

theorem calculateCompoundedInterest_mono {now' c' : Nat} (hle : now ≤ now')
    (h : calculateCompoundedInterest rate last now = .ok c)
    (h' : calculateCompoundedInterest rate last now' = .ok c') : c ≤ c' := by
  obtain ⟨_, rfl⟩ := calculateCompoundedInterest_eq h
  obtain ⟨_, rfl⟩ := calculateCompoundedInterest_eq h'
  exact compoundFactor_mono (Nat.le_refl rate) (Nat.sub_le_sub_right hle last)

theorem compound_room :
    let base := uint128Max / SECONDS_PER_YEAR
    let square := TruncatedBinomial.square RAY base
    let cube := TruncatedBinomial.cube RAY base
    RAY + base * 2 ^ 40 + 2 ^ 40 * 2 ^ 40 * square + 2 ^ 40 * 2 ^ 40 * 2 ^ 40 * cube ≤ uint256Max ∧
      base * base + halfRAY ≤ uint256Max ∧ square * base + halfRAY ≤ uint256Max ∧
      2 ^ 40 * 2 ^ 40 * 2 ^ 40 ≤ uint256Max := by
  decide +kernel

theorem calculateCompoundedInterest_total (hrate : rate ≤ uint128Max) (hle : last ≤ now)
    (hseconds : now - last < 2 ^ 40) :
    calculateCompoundedInterest rate last now = .ok (compoundFactor rate (now - last)) := by
  have hbase : rate / SECONDS_PER_YEAR ≤ uint128Max / SECONDS_PER_YEAR := Nat.div_le_div_right hrate
  have hsquare := TruncatedBinomial.square_mono RAY hbase
  have hcube := TruncatedBinomial.cube_mono RAY hbase
  obtain ⟨room, roomSquare, roomCube, roomTriples⟩ := compound_room
  have success : ∃ c, calculateCompoundedInterest rate last now = .ok c := by
    by_cases hz : now - last = 0
    · exact ⟨RAY, by simp [calculateCompoundedInterest, SafeMath.sub, hle, hz]⟩
    · simp only [calculateCompoundedInterest, SafeMath.sub, if_pos hle, ok_bind, if_neg hz,
        expMinusTwo_eq, bind_eq_ok, SafeMath.mul_eq_ok, SafeMath.add_eq_ok, rayMul_eq_ok]
      have pairs : (now - last) * (now - last - 1) ≤ 2 ^ 40 * 2 ^ 40 :=
        Nat.mul_le_mul (by omega) (by omega)
      have triples := Nat.mul_le_mul pairs (show now - last - 2 ≤ 2 ^ 40 by omega)
      have linear := Nat.mul_le_mul hbase (Nat.le_of_lt hseconds)
      have quadratic := Nat.mul_le_mul pairs hsquare
      have cubic := Nat.mul_le_mul triples hcube
      have powers := Nat.add_le_add_right (Nat.mul_le_mul hbase hbase) halfRAY
      have powers' := Nat.add_le_add_right (Nat.mul_le_mul hsquare hbase) halfRAY
      generalize uint256Max = word at *
      generalize rate / SECONDS_PER_YEAR = base at *
      generalize uint128Max / SECONDS_PER_YEAR = maxBase at *
      generalize TruncatedBinomial.square RAY maxBase = maxSquare at *
      generalize TruncatedBinomial.cube RAY maxBase = maxCube at *
      have second := Nat.div_le_self ((now - last) * (now - last - 1) *
        TruncatedBinomial.square RAY base) 2
      have third := Nat.div_le_self ((now - last) * (now - last - 1) * (now - last - 2) *
        TruncatedBinomial.cube RAY base) 6
      refine ⟨_, TruncatedBinomial.square RAY base, ⟨powers.trans roomSquare, rfl⟩,
        TruncatedBinomial.cube RAY base, ⟨powers'.trans roomCube, rfl⟩, _, ⟨?_, rfl⟩, _,
        ⟨?_, rfl⟩, _, ⟨?_, rfl⟩, _, ⟨?_, rfl⟩, _, ⟨?_, rfl⟩, _, ⟨?_, rfl⟩, _, ⟨?_, rfl⟩, ?_, rfl⟩
      all_goals generalize RAY = ray at *
      all_goals omega
  obtain ⟨c, h⟩ := success
  rw [h, (calculateCompoundedInterest_eq h).2]

theorem calculateLinearInterest_total (hrate : rate ≤ uint128Max) (hle : last ≤ now)
    (hseconds : now - last < 2 ^ 40) :
    calculateLinearInterest rate last now =
      .ok (rate * (now - last) / SECONDS_PER_YEAR + RAY) := by
  have product := Nat.mul_le_mul hrate (Nat.le_of_lt hseconds)
  have floor := Nat.div_le_self (rate * (now - last)) SECONDS_PER_YEAR
  have room : uint128Max * 2 ^ 40 + RAY ≤ uint256Max := by decide
  have sum := Nat.add_le_add_right (floor.trans product) RAY
  exact calculateLinearInterest_eq_ok.mpr
    ⟨⟨hle, product.trans ((Nat.le_add_right _ _).trans room), sum.trans room⟩, rfl⟩

end ElectroLend
