import ElectroLend.Library.RoundingErrors
import ElectroLend.Pool.Scripts

namespace ElectroLend

open Outcome

/-- The rounding that a premium may cost the depositors or give them. -/
def premiumSlack (supply index premium : Nat) : ℚ :=
  supply * index / RAY ^ 2 + premium / supply + 2

/-- How much more than the premium its ratio to the scaled supply is worth at the index. -/
def premiumExcess (index premium : Nat) : ℚ := premium * (index - RAY) / RAY

theorem rayUnit_pos : (0 : ℚ) < (RAY : Nat) := by exact_mod_cast RAY_pos

theorem wadRatio_error {amount total amountInRay totalInRay ratio : Nat}
    (ha : wadToRay amount = .ok amountInRay) (ht : wadToRay total = .ok totalInRay)
    (h : rayDiv amountInRay totalInRay = .ok ratio) :
    0 < total ∧ |(ratio : ℚ) - amount * (RAY : Nat) / total| ≤ 1 / 2 := by
  obtain ⟨_, rfl⟩ := wadToRay_eq_ok.mp ha
  obtain ⟨_, rfl⟩ := wadToRay_eq_ok.mp ht
  obtain ⟨⟨hne, _⟩, rfl⟩ := rayDiv_eq_ok.mp h
  have scale : 0 < WAD_RAY_RATIO := by decide
  have htotal : 0 < total := by
    by_contra hz
    exact hne (by rw [Nat.eq_zero_of_not_pos hz, Nat.zero_mul])
  refine ⟨htotal, ?_⟩
  have error := HalfUp.abs_sub_le (Nat.mul_pos htotal scale) (amount * WAD_RAY_RATIO * RAY)
  have same : ((amount * WAD_RAY_RATIO * RAY : Nat) : ℚ) / (total * WAD_RAY_RATIO : Nat) =
      amount * (RAY : Nat) / total := by
    have hscale : ( WAD_RAY_RATIO : ℚ) ≠ 0 := by exact_mod_cast scale.ne'
    have hrat : (total : ℚ) ≠ 0 := by exact_mod_cast htotal.ne'
    push_cast
    field_simp
  rwa [same] at error

/-- The premium's ratio to the supply raises the index by its share of the index. -/
theorem Reserve.cumulateToLiquidityIndex_error {r r' : Reserve} {total amount : Nat}
    (h : r.cumulateToLiquidityIndex total amount = .ok r') :
    0 < total ∧ ∃ ratio : ℚ, |ratio - amount * (RAY : Nat) / total| ≤ 1 / 2 ∧
      |(r'.liquidityIndex : ℚ) - (ratio + (RAY : Nat)) * r.liquidityIndex / (RAY : Nat)| ≤ 1 / 2 := by
  simp only [cumulateToLiquidityIndex, bind_eq_ok, require_eq_ok, SafeMath.add_eq_ok,
    pure_eq_ok] at h
  obtain ⟨_, ha, _, ht, ratio, hd, _, ⟨_, rfl⟩, index, hm, _, hmax, rfl⟩ := h
  obtain ⟨hpos, hratio⟩ := wadRatio_error ha ht hd
  obtain ⟨_, rfl⟩ := rayMul_eq_ok.mp hm
  have error := HalfUp.abs_sub_le RAY_pos ((ratio + RAY) * r.liquidityIndex)
  push_cast at error
  refine ⟨hpos, ratio, hratio, ?_⟩
  rw [uint128_of_le hmax]
  exact error

namespace LendingPool

variable {pool pool' : LendingPool} {asset : Address} {premium before after : Nat}

/-- What the depositors are credited: the premium at the index, up to the roundings. -/
theorem premium_credited (hi : RAY ≤ (pool.reserves asset).liquidityIndex)
    (h : pool.cumulateToLiquidityIndex asset premium = .ok pool')
    (hbefore : rayMul (pool.reserves asset).elToken.totalSupply
      (pool.reserves asset).liquidityIndex = .ok before)
    (hafter : rayMul (pool'.reserves asset).elToken.totalSupply
      (pool'.reserves asset).liquidityIndex = .ok after) :
    0 < (pool.reserves asset).elToken.totalSupply ∧
      |(after : ℚ) - before - premium * (pool.reserves asset).liquidityIndex / (RAY : Nat)| ≤
        (pool.reserves asset).elToken.totalSupply * (pool.reserves asset).liquidityIndex /
          (RAY : Nat) ^ 2 + 1 := by
  simp only [cumulateToLiquidityIndex, bind_eq_ok, pure_eq_ok] at h
  obtain ⟨r, hr, rfl⟩ := h
  have supply : r.elToken = (pool.reserves asset).elToken := by
    obtain ⟨_, _, rfl⟩ := Reserve.cumulateToLiquidityIndex_eq_ok hr
    rfl
  obtain ⟨hpos, ratio, hratio, hindex⟩ := Reserve.cumulateToLiquidityIndex_error hr
  simp only [setReserve_reserves, Function.update_self, supply] at hafter
  obtain ⟨_, rfl⟩ := rayMul_eq_ok.mp hbefore
  obtain ⟨_, rfl⟩ := rayMul_eq_ok.mp hafter
  refine ⟨hpos, HalfUp.credit_error rayUnit_pos (by exact_mod_cast hpos) (by exact_mod_cast hi)
    hratio hindex ?_ ?_⟩
  · have error := HalfUp.abs_sub_le RAY_pos
      ((pool.reserves asset).elToken.totalSupply * (pool.reserves asset).liquidityIndex)
    push_cast at error
    exact error
  · have error := HalfUp.abs_sub_le RAY_pos
      ((pool.reserves asset).elToken.totalSupply * r.liquidityIndex)
    push_cast at error
    exact error

end LendingPool

/-- The index update of a flash loan credits the depositors with the premium exactly while the part
of the index above one ray is worth no more than the slack, up to the rounding of the credit. -/
theorem premium_within_slack {pool pool' : LendingPool} {asset : Address}
    {premium before after : Nat} (hi : RAY ≤ (pool.reserves asset).liquidityIndex)
    (h : pool.cumulateToLiquidityIndex asset premium = .ok pool')
    (hbefore : rayMul (pool.reserves asset).elToken.totalSupply
      (pool.reserves asset).liquidityIndex = .ok before)
    (hafter : rayMul (pool'.reserves asset).elToken.totalSupply
      (pool'.reserves asset).liquidityIndex = .ok after) :
    (premiumExcess (pool.reserves asset).liquidityIndex premium ≤
          premium / (pool.reserves asset).elToken.totalSupply + 1 →
        |(after : ℚ) - before - premium| ≤
          premiumSlack (pool.reserves asset).elToken.totalSupply
            (pool.reserves asset).liquidityIndex premium) ∧
      (|(after : ℚ) - before - premium| ≤
          premiumSlack (pool.reserves asset).elToken.totalSupply
            (pool.reserves asset).liquidityIndex premium →
        premiumExcess (pool.reserves asset).liquidityIndex premium ≤
          premium / (pool.reserves asset).elToken.totalSupply + 3 +
            2 * ((pool.reserves asset).elToken.totalSupply *
              (pool.reserves asset).liquidityIndex / RAY ^ 2)) := by
  obtain ⟨hpos, credited⟩ := LendingPool.premium_credited hi h hbefore hafter
  have exact : (premium : ℚ) * (pool.reserves asset).liquidityIndex / (RAY : Nat) =
      premium + premiumExcess (pool.reserves asset).liquidityIndex premium := by
    unfold premiumExcess
    have := rayUnit_pos.ne'
    field_simp
    ring
  have excess : 0 ≤ premiumExcess (pool.reserves asset).liquidityIndex premium := by
    have above : (0 : ℚ) ≤ (pool.reserves asset).liquidityIndex - (RAY : Nat) :=
      sub_nonneg.mpr (by exact_mod_cast hi)
    have := rayUnit_pos
    unfold premiumExcess
    positivity
  have share : (0 : ℚ) ≤ premium / (pool.reserves asset).elToken.totalSupply := by positivity
  rw [exact] at credited
  unfold premiumSlack
  rw [abs_le] at credited ⊢
  constructor
  · intro small
    constructor
    · linarith [credited.1]
    · linarith [credited.2]
  · intro within
    linarith [within.2, credited.1]

/-- One reserve at an index, in which bob holds the whole scaled supply of one token. -/
def holdersAt (liquidityIndex : Nat) : LendingPool :=
  { LendingPool.initialized Market.poolAddress (fun _ => ⟨fun _ => 0, fun _ _ => 0⟩) (fun _ => 1)
      (fun _ => 0) (fun _ => true) with
    reserves := fun _ => { Reserve.unlisted with
      liquidityIndex
      elToken := ⟨⟨Function.update (fun _ => 0) Market.bob (10 ^ 18), 10 ^ 18⟩, fun _ _ => 0, 0⟩ } }

/-- At an index of 1.1 rays a premium of ten units is credited within the slack. -/
theorem small_premium_credited :
    ∃ pool after, (holdersAt (11 * 10 ^ 26)).cumulateToLiquidityIndex Market.weth 10 = .ok pool ∧
      rayMul (10 ^ 18) (pool.reserves Market.weth).liquidityIndex = .ok after ∧
      |(after : ℚ) - (11 * 10 ^ 17 : Nat) - (10 : Nat)| ≤
        premiumSlack (10 ^ 18) (11 * 10 ^ 26) 10 := by
  have success : succeedsWith
      ((holdersAt (11 * 10 ^ 26)).cumulateToLiquidityIndex Market.weth 10) (fun pool =>
        (rayMul (10 ^ 18) (pool.reserves Market.weth).liquidityIndex).isOk &&
        decide ((pool.reserves Market.weth).elToken.totalSupply = 10 ^ 18)) = true := by
    decide +kernel
  obtain ⟨pool, hpool, hafter⟩ := succeedsWith_iff.mp success
  simp only [Bool.and_eq_true, decide_eq_true_eq] at hafter
  obtain ⟨hreads, hsupply⟩ := hafter
  obtain ⟨after, hafter⟩ := exists_of_isOk hreads
  have hafter' : rayMul (pool.reserves Market.weth).elToken.totalSupply
      (pool.reserves Market.weth).liquidityIndex = .ok after := by rw [hsupply]; exact hafter
  have hbefore : rayMul ((holdersAt (11 * 10 ^ 26)).reserves Market.weth).elToken.totalSupply
      ((holdersAt (11 * 10 ^ 26)).reserves Market.weth).liquidityIndex = .ok (11 * 10 ^ 17) := by
    decide +kernel
  have small : premiumExcess ((holdersAt (11 * 10 ^ 26)).reserves Market.weth).liquidityIndex 10 ≤
      (10 : Nat) / ((holdersAt (11 * 10 ^ 26)).reserves Market.weth).elToken.totalSupply + 1 := by
    have index : ((holdersAt (11 * 10 ^ 26)).reserves Market.weth).liquidityIndex = 11 * 10 ^ 26 :=
      rfl
    have excess : premiumExcess (11 * 10 ^ 26) 10 = 1 := by norm_num [premiumExcess, RAY]
    rw [index, excess]
    exact le_add_of_nonneg_left (by positivity)
  exact ⟨pool, after, hpool, hafter,
    (premium_within_slack (by decide) hpool hbefore hafter').1 small⟩

/-- At an index of 1.1 rays they are credited with 1.1 times the premium. -/
theorem premium_above_par :
    ∃ pool after, (holdersAt (11 * 10 ^ 26)).cumulateToLiquidityIndex Market.weth (9 * 10 ^ 14) =
        .ok pool ∧
      rayMul (10 ^ 18) (11 * 10 ^ 26) = .ok (11 * 10 ^ 17) ∧
      rayMul (10 ^ 18) (pool.reserves Market.weth).liquidityIndex = .ok after ∧
      ¬|(after : ℚ) - (11 * 10 ^ 17 : Nat) - (9 * 10 ^ 14 : Nat)| ≤
        premiumSlack (10 ^ 18) (11 * 10 ^ 26) (9 * 10 ^ 14) := by
  have success : succeedsWith
      ((holdersAt (11 * 10 ^ 26)).cumulateToLiquidityIndex Market.weth (9 * 10 ^ 14)) (fun pool =>
        decide (rayMul (10 ^ 18) (pool.reserves Market.weth).liquidityIndex =
          .ok (11 * 10 ^ 17 + 99 * 10 ^ 13))) = true := by decide +kernel
  obtain ⟨pool, hpool, hafter⟩ := succeedsWith_iff.mp success
  refine ⟨pool, _, hpool, by decide +kernel, of_decide_eq_true hafter, ?_⟩
  intro within
  have above := (abs_le.mp within).2
  norm_num [premiumSlack, RAY] at above

end ElectroLend
