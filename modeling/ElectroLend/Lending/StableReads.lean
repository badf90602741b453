import ElectroLend.Lending.Accrual

namespace ElectroLend

open Outcome

/-- A whole number of rays leaves room in a word for the half that rounding adds. -/
theorem ray_room {n : Nat} (h : n * RAY ≤ uint256Max) : n * RAY + halfRAY ≤ uint256Max := by
  have hn : n ≤ uint256Max / RAY := (Nat.le_div_iff_mul_le RAY_pos).mpr h
  have hmul := Nat.mul_le_mul_right RAY hn
  have room : uint256Max / RAY * RAY + halfRAY ≤ uint256Max := by decide
  omega

theorem rayMul_ray {n : Nat} (h : n * RAY ≤ uint256Max) : rayMul n RAY = .ok n :=
  rayMul_eq_ok.mpr ⟨ray_room h, HalfUp.mul_self_left n RAY_pos⟩

theorem rayMul_fits {a b c : Nat} (h : rayMul a b = .ok c) : c * RAY ≤ uint256Max := by
  obtain ⟨hfits, rfl⟩ := rayMul_eq_ok.mp h
  have low := HalfUp.mul_le (a * b) RAY
  rw [Nat.mul_comm]
  exact low.trans hfits

/-- The view answers `n`, or fails because `n` rays do not fit in a word. -/
def ReadsAs (view : Result Nat) (n : Nat) : Prop :=
  view = .ok n ∨ (uint256Max < n * RAY ∧ view = .error .mathMultiplicationOverflow)

theorem rayMul_ray_readsAs (n : Nat) : ReadsAs (rayMul n RAY) n := by
  by_cases hfits : n * RAY ≤ uint256Max
  · exact .inl (rayMul_ray hfits)
  · have hover : 2 ^ 256 ≤ n * RAY + halfRAY := by
      rw [← Nat.not_lt, ← word_le_iff]
      omega
    refine .inr ⟨by omega, ?_⟩
    rw [rayMul_eq, exactQuotient_overflow RAY_pos.ne' hover]

namespace StableDebtToken

variable {token token' : StableDebtToken} {t balance supply : Nat} {u v : Address}

theorem balanceOf_written (ht : IsBlockTimestamp t)
    (h : token.balances u = 0 ∨ token.timestamps u = uint40 t) :
    token.balanceOf t u = rayMul (token.balances u) RAY := by
  by_cases hz : token.balances u = 0
  · rw [balanceOf_zero hz, hz, rayMul_zero_left]
  · have htime := h.resolve_left hz
    simp only [balanceOf, IncentivizedERC20.balanceOf, htime, ht.uint40,
      calculateCompoundedInterest_self, ok_bind]
    exact if_neg hz

theorem balanceOf_now (ht : IsBlockTimestamp t) (htime : token.timestamps u = uint40 t)
    (h : token.balanceOf t u = .ok balance) : balance = token.balances u := by
  rw [balanceOf_written ht (.inr htime)] at h
  exact rayMul_by_ray h

theorem totalSupplyAt_written (ht : IsBlockTimestamp t)
    (h : token.totalSupplyTimestamp = uint40 t) :
    token.totalSupplyAt t = rayMul token.totalSupply RAY := by
  simp only [totalSupplyAt, calcTotalSupply, h, ht.uint40, calculateCompoundedInterest_self,
    ok_bind]
  by_cases hz : token.totalSupply = 0
  · rw [if_pos hz, hz, rayMul_zero_left]
  · exact if_neg hz

theorem balanceOf_fits (h : token.balanceOf t u = .ok balance) : balance * RAY ≤ uint256Max := by
  simp only [balanceOf, ite_eq_ok, bind_eq_ok, Except.ok.injEq] at h
  obtain ⟨_, rfl⟩ | ⟨_, _, _, hm⟩ := h
  · omega
  · exact rayMul_fits hm

theorem totalSupplyAt_fits (h : token.totalSupplyAt t = .ok supply) : supply * RAY ≤ uint256Max := by
  simp only [totalSupplyAt, calcTotalSupply, ite_eq_ok, bind_eq_ok, Except.ok.injEq] at h
  obtain ⟨_, rfl⟩ | ⟨_, _, _, hm⟩ := h
  · omega
  · exact rayMul_fits hm

/-- The token keeps everything it knows of an account. -/
structure SameAccount (token token' : StableDebtToken) (v : Address) : Prop where
  principal : token'.balances v = token.balances v
  rate : token'.usersStableRate v = token.usersStableRate v
  timestamp : token'.timestamps v = token.timestamps v

theorem SameAccount.balanceOf (same : token.SameAccount token' v) (t : Nat) :
    token'.balanceOf t v = token.balanceOf t v := by
  simp only [StableDebtToken.balanceOf, same.principal, same.rate, same.timestamp]

theorem mint_sameAccount {user : Address} {amount rate : Nat} {first : Bool}
    (h : token.mint t user u amount rate = .ok (first, token')) (hv : v ≠ u) :
    token.SameAccount token' v := by
  obtain ⟨_, _, _, _, _, _, _, _, _, _, hbals, _, _, htimes, hrates, _⟩ := mint_eq_ok h
  refine ⟨?_, ?_, ?_⟩
  · rw [hbals, Function.update_of_ne hv]
  · rw [hrates, Function.update_of_ne hv]
  · rw [htimes, Function.update_of_ne hv]

theorem burn_sameAccount {amount : Nat} (h : token.burn t u amount = .ok token') (hv : v ≠ u) :
    token.SameAccount token' v := by
  obtain ⟨_, _, _, _, _, _, hbals, htimes, hrates, _⟩ := burn_eq_ok h
  refine ⟨?_, ?_, ?_⟩
  · rw [hbals, Function.update_of_ne hv]
  · rw [hrates]
    split
    · exact Function.update_of_ne hv _ _
    · rfl
  · rw [htimes, Function.update_of_ne hv]

theorem mint_reads {user : Address} {amount rate : Nat} {first : Bool} (ht : IsBlockTimestamp t)
    (h : token.mint t user u amount rate = .ok (first, token')) :
    ∃ balance supply, token.balanceOf t u = .ok balance ∧ token.totalSupplyAt t = .ok supply ∧
      token'.balanceOf t u = rayMul (balance + amount) RAY ∧
      token'.totalSupplyAt t = rayMul (supply + amount) RAY := by
  obtain ⟨balance, supply, _, _, hb, hs, _, _, _, _, hbals, hsupply, _, htimes, _, htime⟩ :=
    mint_eq_ok h
  have written : token'.timestamps u = uint40 t := by simp [htimes]
  have principal : token'.balances u = balance + amount := by simp [hbals]
  refine ⟨balance, supply, hb, hs, ?_, ?_⟩
  · rw [balanceOf_written ht (.inr written), principal]
  · rw [totalSupplyAt_written ht htime, hsupply]

theorem balanceOf_after_burn {amount debt : Nat} (ht : IsBlockTimestamp t)
    (hdebt : token.balanceOf t u = .ok debt) (h : token.burn t u amount = .ok token') :
    amount ≤ debt ∧ token'.balanceOf t u = .ok (debt - amount) := by
  obtain ⟨_, _, hb, _, _, hle, hbals, htimes, _⟩ := burn_eq_ok h
  cases ok_unique hdebt hb
  have principal : token'.balances u = debt - amount := by simp [hbals]
  have written : token'.balances u = 0 ∨ token'.timestamps u = uint40 t := by
    by_cases hall : amount = debt
    · exact .inl (by omega)
    · exact .inr (by simp [htimes, hall])
  have fits := balanceOf_fits hdebt
  have hmono := Nat.mul_le_mul_right RAY (Nat.sub_le debt amount)
  refine ⟨hle, ?_⟩
  rw [balanceOf_written ht written, principal]
  exact rayMul_ray (hmono.trans fits)

end StableDebtToken

namespace Reserve

variable {r : Reserve} {t debt : Nat} {u : Address}

theorem stableDebtBalanceOf_eq_ok :
    r.stableDebtBalanceOf t u = .ok debt ↔
      r.stableDebtTokenAddress ≠ 0 ∧ r.stableDebtToken.balanceOf t u = .ok debt := by
  simp only [stableDebtBalanceOf, requireContract, bind_eq_ok, require_eq_ok, exists_const]

theorem stableDebtBalanceOf_view (h : r.stableDebtBalanceOf t u = .ok debt) :
    r.stableDebtToken.balanceOf t u = .ok debt := (stableDebtBalanceOf_eq_ok.mp h).2

theorem stableDebtBalanceOf_eq_zero_iff (h : r.stableDebtBalanceOf t u = .ok debt) :
    debt = 0 ↔ r.stableDebtToken.balances u = 0 := by
  rw [← StableDebtToken.balanceOf_eq_zero_iff (t := t), stableDebtBalanceOf_view h, Except.ok.injEq]

end Reserve

end ElectroLend
