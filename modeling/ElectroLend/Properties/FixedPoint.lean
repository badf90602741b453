import ElectroLend.Math.MathUtils

namespace ElectroLend

open Outcome HalfUp

/-- A revert exactly for a zero divisor or a numerator that does not fit a word, the floor of the
quotient otherwise, and no numerator that has wrapped behind what is returned. -/
structure FloorsExactly (operation : Result Nat) (numerator divisor : Nat) : Prop where
  reverts : (∃ e, operation = .error e) ↔ divisor = 0 ∨ 2 ^ 256 ≤ numerator
  returns : divisor ≠ 0 → numerator < 2 ^ 256 → operation = .ok (numerator / divisor)
  unwrapped : operation.isOk = true → wrap numerator = numerator

theorem exactQuotient_floors (numerator divisor : Nat) (overflow : Errors) :
    FloorsExactly (exactQuotient numerator divisor overflow) numerator divisor := by
  have returns : divisor ≠ 0 → numerator < 2 ^ 256 →
      exactQuotient numerator divisor overflow = .ok (numerator / divisor) := by
    intro hd hlt
    exact exactQuotient_eq_ok.mpr ⟨hd, word_le_iff.mpr hlt, rfl⟩
  refine ⟨?_, returns, ?_⟩
  · constructor
    · rintro ⟨e, he⟩
      by_contra hnone
      obtain ⟨hd, hlt⟩ := not_or.mp hnone
      rw [returns hd (Nat.lt_of_not_le hlt)] at he
      cases he
    · intro hnone
      by_cases hd : divisor = 0
      · exact ⟨.mathDivisionByZero, if_pos hd⟩
      · exact ⟨overflow, exactQuotient_overflow hd (hnone.resolve_left hd)⟩
  · intro hok
    obtain ⟨c, hc⟩ := exists_of_isOk hok
    obtain ⟨_, hfits, _⟩ := exactQuotient_eq_ok.mp hc
    exact wrap_eq_self (word_le_iff.mp hfits)

/-- The guards of the fixed-point operations are sharp, and behind them nothing wraps. -/
theorem fixedPoint_floors_exactly {a b : Nat} (ha : a < 2 ^ 256) (hb : b < 2 ^ 256) :
    FloorsExactly (wadMul a b) (a * b + halfWAD) WAD ∧
      FloorsExactly (wadDiv a b) (a * WAD + b / 2) b ∧
      FloorsExactly (rayMul a b) (a * b + halfRAY) RAY ∧
      FloorsExactly (rayDiv a b) (a * RAY + b / 2) b ∧
      FloorsExactly (percentMul a b) (a * b + HALF_PERCENT) PERCENTAGE_FACTOR ∧
      FloorsExactly (percentDiv a b) (a * PERCENTAGE_FACTOR + b / 2) b ∧
      FloorsExactly (rayToWad a) (a + WAD_RAY_RATIO / 2) WAD_RAY_RATIO ∧
      FloorsExactly (wadToRay a) (a * WAD_RAY_RATIO) 1 := by
  have hb' : b ≤ uint256Max := word_le_iff.mpr hb
  rw [wadMul_eq, wadDiv_eq hb', rayMul_eq, rayDiv_eq hb', percentMul_eq, percentDiv_eq hb',
    rayToWad_eq ha, wadToRay_eq]
  exact ⟨exactQuotient_floors _ _ _, exactQuotient_floors _ _ _, exactQuotient_floors _ _ _,
    exactQuotient_floors _ _ _, exactQuotient_floors _ _ _, exactQuotient_floors _ _ _,
    exactQuotient_floors _ _ _, exactQuotient_floors _ _ _⟩

/-- The largest word that `rayToWad` takes, and the first that it refuses. -/
theorem rayToWad_boundary :
    rayToWad (2 ^ 256 - 1 - 5 * 10 ^ 8) = .ok ((2 ^ 256 - 1) / 10 ^ 9) ∧
      ∃ e, rayToWad (2 ^ 256 - 5 * 10 ^ 8) = .error e := by
  obtain ⟨_, _, _, _, _, _, largest, _⟩ := @fixedPoint_floors_exactly (2 ^ 256 - 1 - 5 * 10 ^ 8) 0
    (by decide) (by decide)
  obtain ⟨_, _, _, _, _, _, refused, _⟩ := @fixedPoint_floors_exactly (2 ^ 256 - 5 * 10 ^ 8) 0
    (by decide) (by decide)
  exact ⟨largest.returns (by decide) (by decide), refused.reverts.mpr (.inr (by decide))⟩

theorem rayMul_rayDiv {amount index scaled value : Nat} (hi : RAY ≤ index)
    (hd : rayDiv amount index = .ok scaled) (hm : rayMul scaled index = .ok value) :
    Within (index / (2 * RAY) + 1) value amount := by
  obtain ⟨_, hscaled⟩ := rayDiv_eq_ok.mp hd
  obtain ⟨_, rfl⟩ := rayMul_eq_ok.mp hm
  have hpos : 0 < index := RAY_pos.trans_le hi
  have hwithin := within_add_scaled RAY_pos hpos hscaled 0
  rwa [Nat.zero_add, Nat.zero_mul, zero_left, Nat.zero_add] at hwithin

/-- Scaled units survive the way through their value, and an amount the way through its units up to
half an index, as long as the numerators fit. -/
theorem index_round_trips {index : Nat} (hi : RAY ≤ index) :
    (∀ s, s * index + halfRAY < 2 ^ 256 →
      ∃ value, rayMul s index = .ok value ∧
        (value * RAY + index / 2 < 2 ^ 256 → rayDiv value index = .ok s)) ∧
    ∀ amount, amount * RAY + index / 2 < 2 ^ 256 →
      ∃ scaled, rayDiv amount index = .ok scaled ∧
        (scaled * index + halfRAY < 2 ^ 256 →
          ∃ value, rayMul scaled index = .ok value ∧
            Within (index / (2 * RAY) + 1) value amount) := by
  have hpos : 0 < index := RAY_pos.trans_le hi
  constructor
  · intro s hup
    have hm := rayMul_returns hup
    refine ⟨_, hm, ?_⟩
    intro hdown
    have hd := rayDiv_returns hpos hdown
    rwa [rayDiv_rayMul hi hm hd] at hd
  · intro amount hdown
    have hd := rayDiv_returns hpos hdown
    refine ⟨_, hd, ?_⟩
    intro hup
    have hm := rayMul_returns hup
    exact ⟨_, hm, rayMul_rayDiv hi hd hm⟩

/-- At a ray and a half one unit is worth two, by a tie, and a single wei costs a whole unit. -/
theorem tie_round_trips :
    (rayMul 1 (15 * 10 ^ 26) = .ok 2 ∧ rayDiv 2 (15 * 10 ^ 26) = .ok 1) ∧
      ∃ value, rayDiv 1 (15 * 10 ^ 26) = .ok 1 ∧ rayMul 1 (15 * 10 ^ 26) = .ok value ∧
        Within 1 value 1 := by
  obtain ⟨units, amounts⟩ := index_round_trips (show RAY ≤ 15 * 10 ^ 26 by decide)
  obtain ⟨value, hm, back⟩ := units 1 (by decide)
  have htwo : rayMul 1 (15 * 10 ^ 26) = .ok 2 := by decide +kernel
  cases ok_unique hm htwo
  obtain ⟨scaled, hd, near⟩ := amounts 1 (by decide)
  have hone : rayDiv 1 (15 * 10 ^ 26) = .ok 1 := by decide +kernel
  cases ok_unique hd hone
  obtain ⟨value, hvalue, hwithin⟩ := near (by decide)
  exact ⟨⟨htwo, back (by decide)⟩, value, hone, hvalue, hwithin⟩

end ElectroLend
