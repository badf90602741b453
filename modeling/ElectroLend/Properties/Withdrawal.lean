import ElectroLend.Pool.Holdings
import ElectroLend.Pool.Scripts

namespace ElectroLend

open Outcome

theorem rayMul_eq_self_iff {s index worth : Nat} (hi : RAY ≤ index)
    (h : rayMul s index = .ok worth) : worth = s ↔ s * (index - RAY) < halfRAY := by
  obtain ⟨_, rfl⟩ := rayMul_eq_ok.mp h
  have split : s * index = s * (index - RAY) + RAY * s := by
    rw [Nat.mul_comm RAY s, ← Nat.mul_add, Nat.sub_add_cancel hi]
  rw [HalfUp.eq_iff RAY_pos, split, Nat.mul_add]
  have hray : RAY = 2 * halfRAY := RAY_eq_two_mul
  omega

theorem rayDiv_eq_self_iff {s index scaled : Nat} (hi : RAY ≤ index)
    (h : rayDiv s index = .ok scaled) : scaled = s ↔ s * (index - RAY) ≤ index / 2 := by
  have hle := rayDiv_le hi h
  obtain ⟨_, rfl⟩ := rayDiv_eq_ok.mp h
  have split : s * index = s * (index - RAY) + s * RAY := by
    rw [← Nat.mul_add, Nat.sub_add_cancel hi]
  constructor
  · intro he
    have low := HalfUp.mul_le (s * RAY) index
    rw [he, Nat.mul_comm index s] at low
    omega
  · intro hb
    refine Nat.le_antisymm hle ?_
    unfold halfUp
    rw [Nat.le_div_iff_mul_le (by unfold RAY at hi; omega)]
    omega

namespace LendingPool

variable {pool pool' : LendingPool} {t amount paid : Nat} {asset u recipient : Address}

/-- What a withdrawal does to the elTokens of its caller, to his bit and to the underlying. -/
theorem withdraw_effect (h : pool.withdraw t u asset amount recipient = .ok (paid, pool')) :
    paid = amountToWithdraw amount ((pool.reserves asset).elToken.balances u) ∧ paid ≠ 0 ∧
      paid ≤ (pool.reserves asset).elToken.balances u ∧
      ∃ index minted scaled, (pool.reserves asset).nextLiquidityIndex t = .ok index ∧
        rayDiv paid index = .ok scaled ∧
        (∃ r, (pool.reserves asset).updateState t = .ok r ∧
          r.elToken.balances u = (pool.reserves asset).elToken.balances u + minted) ∧
        (u ≠ (pool.reserves asset).elToken.treasury → minted = 0) ∧
        scaled ≤ (pool.reserves asset).elToken.balances u + minted ∧
        (pool'.reserves asset).elToken.balances u =
          (pool.reserves asset).elToken.balances u + minted - scaled ∧
        (pool'.reserves asset).id = (pool.reserves asset).id ∧
        (∀ i, (pool'.usersConfig u).collateralBit i =
          if paid = (pool.reserves asset).elToken.balances u ∧ i = (pool.reserves asset).id then
            false else (pool.usersConfig u).collateralBit i) ∧
        moveBalance (pool.tokens asset).balances (pool.reserves asset).elTokenAddress recipient
          paid = .ok (pool'.tokens asset).balances := by
  obtain ⟨balance, p₁, p₂, p₃, hbalance, hvalid, h₁, h₂, hbit, h₄, rfl⟩ := withdraw_eq_ok h
  simp only [Reserve.elTokenBalanceOf, bind_eq_ok, pure_eq_ok] at hbalance
  obtain ⟨_, _, rfl⟩ := hbalance
  simp only [validateWithdraw, bind_eq_ok, require_eq_ok] at hvalid
  obtain ⟨_, hne, _, hle, _⟩ := hvalid
  obtain ⟨index, minted, hindex, hcredit, htreasury, hli, _, hbal₁, haddr, hid, hconf, htok⟩ :=
    updateState_holdings h₁ u
  obtain ⟨rates, htok₂⟩ := updateInterestRates_holdings h₂ asset
  have marked : p₃.reserves = p₂.reserves ∧ p₃.tokens = p₂.tokens ∧
      ∀ i, (p₃.usersConfig u).collateralBit i =
        if amountToWithdraw amount ((pool.reserves asset).elToken.balances u) =
            (pool.reserves asset).elToken.balances u ∧ i = (pool.reserves asset).id then
          false else (pool.usersConfig u).collateralBit i := by
    obtain ⟨hall, hset⟩ | ⟨hpart, rfl⟩ := hbit
    · obtain ⟨hres, htok₃, hbits, _⟩ := setUsingAsCollateral_holdings hset
      refine ⟨hres, htok₃, fun i => ?_⟩
      rw [hbits, rates.id, hid, rates.config, hconf]
      simp only [hall, true_and]
    · refine ⟨rfl, rfl, fun i => ?_⟩
      rw [if_neg (fun hand => hpart hand.1), rates.config, hconf]
  obtain ⟨hres, htok₃, hbits⟩ := marked
  obtain ⟨scaled, hd, hsc, hbal, hid₄, hconf₄, hmove⟩ := burnELToken_holdings h₄
  rw [hres] at hd hsc hbal hid₄ hmove
  rw [rates.index, hli] at hd
  rw [rates.elToken, hbal₁] at hsc hbal
  rw [htok₃, htok₂, htok, rates.address, haddr] at hmove
  refine ⟨rfl, hne, hle, index, minted, scaled, hindex, hd, hcredit, htreasury, hsc, hbal,
    hid₄.trans (rates.id.trans hid), ?_, hmove⟩
  intro i
  rw [hconf₄]
  exact hbits i

end LendingPool

open LendingPool

/-- A withdrawal of everything pays the accrued value and leaves nothing exactly when the interest
on the scaled balance rounds to nothing: the amount paid is the scaled balance, not its value. -/
theorem withdraw_all_pays_value_iff {pool pool' : LendingPool} {t paid income value : Nat}
    {asset u recipient : Address} (ht : IsBlockTimestamp t)
    (hl : RAY ≤ (pool.reserves asset).liquidityIndex)
    (hu : u ≠ (pool.reserves asset).elToken.treasury)
    (hincome : (pool.reserves asset).getNormalizedIncome t = .ok income)
    (hvalue : rayMul ((pool.reserves asset).elToken.scaledBalanceOf u) income = .ok value)
    (h : pool.withdraw t u asset uint256Max recipient = .ok (paid, pool')) :
    ((pool'.tokens asset).balanceOf recipient = (pool.tokens asset).balanceOf recipient + value ∧
        (pool'.reserves asset).elToken.scaledBalanceOf u = 0) ↔
      (pool.reserves asset).elToken.scaledBalanceOf u * (income - RAY) < halfRAY ∧
        recipient ≠ (pool.reserves asset).elTokenAddress := by
  obtain ⟨hpaid, hne, _, index, minted, scaled, hindex, hd, _, hminted, _, hbal, _, _, hmove⟩ :=
    withdraw_effect h
  have hfull : paid = (pool.reserves asset).elToken.balances u := by
    rw [hpaid, amountToWithdraw, if_pos rfl]
  have hsame : income = index := Reserve.getNormalizedIncome_eq_next ht hincome hindex
  subst hsame
  have hi : RAY ≤ income := hl.trans (Reserve.le_getNormalizedIncome hincome)
  rw [hminted hu, Nat.add_zero] at hbal
  simp only [ELToken.scaledBalanceOf, ERC20.balanceOf] at hvalue ⊢
  rw [← hfull] at hbal hvalue ⊢
  have hworth := rayMul_eq_self_iff hi hvalue
  have hge : paid ≤ value := le_rayMul hi hvalue
  by_cases hself : recipient = (pool.reserves asset).elTokenAddress
  · rw [hself] at hmove ⊢
    obtain ⟨_, hsame⟩ := moveBalance_self hmove
    rw [hsame]
    constructor
    · rintro ⟨hvalue, _⟩
      omega
    · rintro ⟨_, hother⟩
      exact absurd rfl hother
  · have hreceived := moveBalance_recipient (Ne.symm hself) hmove
    rw [hreceived, hbal]
    constructor
    · rintro ⟨hvalue, _⟩
      exact ⟨hworth.mp (by omega), hself⟩
    · rintro ⟨hsmall, _⟩
      have hexact : scaled = paid := by
        refine (rayDiv_eq_self_iff hi hd).mpr ?_
        have hhalf : halfRAY ≤ income / 2 := by
          have hray := RAY_eq_two_mul
          omega
        omega
      have := hworth.mpr hsmall
      omega

/-- A month after bob's loan, the deposits of weth have earned interest. -/
def accruedMarket : LendingPool :=
  Market.endState (Market.setup 1000 ++
    [(1, Market.alice, .deposit Market.weth (10 ^ 20) Market.alice),
      (2, Market.bob, .deposit Market.dai (10 ^ 20) Market.bob),
      (3, Market.bob, .borrow Market.weth (5 * 10 ^ 19) 2 Market.bob),
      (2592003, Market.carol, .deposit Market.weth (10 ^ 21) Market.carol)])

/-- Alice is paid her scaled balance, which is worth more, and keeps scaled units. -/
theorem accruedMarket_withdraw_all_underpays :
    Reachable .any 2592003 accruedMarket ∧
      ∃ paid pool' income value,
        accruedMarket.withdraw 2592003 Market.alice Market.weth uint256Max Market.alice =
          .ok (paid, pool') ∧
        RAY ≤ (accruedMarket.reserves Market.weth).liquidityIndex ∧
        Market.alice ≠ (accruedMarket.reserves Market.weth).elToken.treasury ∧
        (accruedMarket.reserves Market.weth).getNormalizedIncome 2592003 = .ok income ∧
        rayMul ((accruedMarket.reserves Market.weth).elToken.scaledBalanceOf Market.alice) income =
          .ok value ∧
        (pool'.tokens Market.weth).balanceOf Market.alice <
          (accruedMarket.tokens Market.weth).balanceOf Market.alice + value ∧
        (pool'.reserves Market.weth).elToken.scaledBalanceOf Market.alice ≠ 0 := by
  refine ⟨Market.endState_reachable (by decide +kernel) (by decide +kernel), ?_⟩
  have withdrawn : succeedsWith
      (accruedMarket.withdraw 2592003 Market.alice Market.weth uint256Max Market.alice)
      (fun result => decide ((result.2.tokens Market.weth).balanceOf Market.alice =
          (accruedMarket.tokens Market.weth).balanceOf Market.alice + 10 ^ 20 ∧
        (result.2.reserves Market.weth).elToken.scaledBalanceOf Market.alice ≠ 0)) = true := by
    decide +kernel
  have income : succeedsWith
      ((accruedMarket.reserves Market.weth).getNormalizedIncome 2592003 >>= fun income =>
        rayMul ((accruedMarket.reserves Market.weth).elToken.scaledBalanceOf Market.alice) income)
      (fun value => decide (10 ^ 20 < value)) = true := by decide +kernel
  obtain ⟨⟨paid, pool'⟩, hw, hafter⟩ := succeedsWith_iff.mp withdrawn
  obtain ⟨value, hvalue, hmore⟩ := succeedsWith_iff.mp income
  obtain ⟨income, hincome, hvalue⟩ := bind_eq_ok.mp hvalue
  simp only [decide_eq_true_eq] at hafter hmore
  exact ⟨paid, pool', income, value, hw, by decide +kernel, by decide +kernel, hincome, hvalue,
    by omega, hafter.2⟩

/-- Before any interest accrues, a withdrawal of everything pays exactly the balance. -/
def freshMarket : LendingPool :=
  Market.endState (Market.setup 1000 ++
    [(1, Market.alice, .deposit Market.weth (10 ^ 20) Market.alice)])

theorem freshMarket_withdraw_all_pays_value :
    ∃ paid pool', freshMarket.withdraw 86400 Market.alice Market.weth uint256Max Market.alice =
        .ok (paid, pool') ∧
      (pool'.tokens Market.weth).balanceOf Market.alice =
        (freshMarket.tokens Market.weth).balanceOf Market.alice + 10 ^ 20 ∧
      (pool'.reserves Market.weth).elToken.scaledBalanceOf Market.alice = 0 := by
  have success : (freshMarket.withdraw 86400 Market.alice Market.weth uint256Max
      Market.alice).isOk = true := by decide +kernel
  have income : succeedsWith ((freshMarket.reserves Market.weth).getNormalizedIncome 86400)
      (· == RAY) = true := by decide +kernel
  have value : succeedsWith (rayMul ((freshMarket.reserves Market.weth).elToken.scaledBalanceOf
      Market.alice) RAY) (· == 10 ^ 20) = true := by decide +kernel
  obtain ⟨⟨paid, pool'⟩, hw⟩ := exists_of_isOk success
  obtain ⟨income, hincome, heq⟩ := succeedsWith_iff.mp income
  cases eq_of_beq heq
  obtain ⟨value, hvalue, heq⟩ := succeedsWith_iff.mp value
  cases eq_of_beq heq
  obtain ⟨hpays, hzero⟩ := (withdraw_all_pays_value_iff (show (86400 : Nat) < 2 ^ 40 by decide)
    (by decide +kernel) (by decide +kernel) hincome hvalue hw).mpr
    ⟨by decide +kernel, by decide +kernel⟩
  exact ⟨paid, pool', hw, hpays, hzero⟩

end ElectroLend
