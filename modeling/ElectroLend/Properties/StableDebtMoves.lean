import ElectroLend.Lending.StableReads
import ElectroLend.Pool.Scripts
import ElectroLend.Tokens.StableRuns

namespace ElectroLend

open Outcome

namespace StableDebtToken

variable {token token' token'' : StableDebtToken} {t x y : Nat} {u : Address}

theorem totalSupplyAt_after_burn {supply : Nat} (ht : IsBlockTimestamp t)
    (hs : token.totalSupplyAt t = .ok supply) (h : token.burn t u x = .ok token') :
    (token.BurnResets supply (token.usersStableRate u) x ∧ token'.totalSupplyAt t = .ok 0) ∨
      (¬token.BurnResets supply (token.usersStableRate u) x ∧ x < supply ∧
        token'.totalSupplyAt t = .ok (supply - x)) := by
  obtain ⟨_, _, _, hs', hnext, _, _, _, _, htime⟩ := burn_eq_ok h
  cases ok_unique hs hs'
  obtain ⟨resets, _, hzero⟩ | ⟨keeps, hsub, _⟩ := supplyAfterBurn_eq_ok hnext
  · exact .inl ⟨resets, totalSupplyAt_eq_zero_iff.mpr hzero⟩
  · have hlt : x < supply := by
      by_contra hge
      exact keeps (.inl (by omega))
    have fits := totalSupplyAt_fits hs
    have hmono := Nat.mul_le_mul_right RAY (Nat.sub_le supply x)
    refine .inr ⟨keeps, hlt, ?_⟩
    rw [totalSupplyAt_written ht htime, hsub]
    exact rayMul_ray (hmono.trans fits)

/-- A second mint in the block goes on from the balance and the supply that the first one left. -/
theorem mint_twice_reads {user user' : Address} {rate rate' : Nat} {first first' : Bool}
    (ht : IsBlockTimestamp t) (h : token.mint t user u x rate = .ok (first, token'))
    (h' : token'.mint t user' u y rate' = .ok (first', token'')) :
    ∃ balance supply, token.balanceOf t u = .ok balance ∧ token.totalSupplyAt t = .ok supply ∧
      token''.balanceOf t u = rayMul (balance + (x + y)) RAY ∧
      token''.totalSupplyAt t = rayMul (supply + (x + y)) RAY := by
  obtain ⟨balance, supply, hb, hs, hbal, hsup⟩ := mint_reads ht h
  obtain ⟨_, _, hb', hs', hbal', hsup'⟩ := mint_reads ht h'
  rw [hbal] at hb'
  rw [hsup] at hs'
  cases rayMul_by_ray hb'
  cases rayMul_by_ray hs'
  rw [Nat.add_assoc] at hbal' hsup'
  exact ⟨balance, supply, hb, hs, hbal', hsup'⟩

theorem burn_after_mint {user : Address} {rate balance : Nat} {first : Bool}
    (ht : IsBlockTimestamp t) (hb : token.balanceOf t u = .ok balance)
    (h : token.mint t user u x rate = .ok (first, token'))
    (h' : token'.burn t u x = .ok token'') : token''.balanceOf t u = .ok balance := by
  obtain ⟨_, _, hb₀, _, hbal, _⟩ := mint_reads ht h
  cases ok_unique hb hb₀
  obtain ⟨debt, _, hdebt, _⟩ := burn_eq_ok h'
  have hread := hdebt
  rw [hbal] at hread
  cases rayMul_by_ray hread
  have after := (balanceOf_after_burn ht hdebt h').2
  rwa [Nat.add_sub_cancel] at after

end StableDebtToken

open StableDebtToken

/-- Mint and burn of the stable debt token move the balance and the supply of the moment by exactly
the amount, and nothing of another account. -/
theorem stableDebt_moves_exactly {t : Nat} (ht : IsBlockTimestamp t) (token : StableDebtToken)
    (u : Address) :
    (∀ user x rate first token', token.mint t user u x rate = .ok (first, token') →
      ∃ balance supply, token.balanceOf t u = .ok balance ∧ token.totalSupplyAt t = .ok supply ∧
        ReadsAs (token'.balanceOf t u) (balance + x) ∧
        ReadsAs (token'.totalSupplyAt t) (supply + x) ∧
        (∀ v, v ≠ u → token.SameAccount token' v) ∧
        (∀ burned, token'.burn t u x = .ok burned → burned.balanceOf t u = .ok balance) ∧
        ∀ y user₂ rate₂ first₂ twice user₃ rate₃ first₃ once,
          token'.mint t user₂ u y rate₂ = .ok (first₂, twice) →
          token.mint t user₃ u (x + y) rate₃ = .ok (first₃, once) →
            twice.balanceOf t u = once.balanceOf t u ∧
              twice.totalSupplyAt t = once.totalSupplyAt t) ∧
    ∀ x token', token.burn t u x = .ok token' →
      ∃ balance supply, token.balanceOf t u = .ok balance ∧ token.totalSupplyAt t = .ok supply ∧
        x ≤ balance ∧ token'.balanceOf t u = .ok (balance - x) ∧
        ((token.BurnResets supply (token.usersStableRate u) x ∧
            token'.totalSupplyAt t = .ok 0) ∨
          (¬token.BurnResets supply (token.usersStableRate u) x ∧ x < supply ∧
            token'.totalSupplyAt t = .ok (supply - x))) ∧
        ∀ v, v ≠ u → token.SameAccount token' v := by
  refine ⟨?_, ?_⟩
  · intro user x rate first token' hmint
    obtain ⟨balance, supply, hb, hs, hbal, hsup⟩ := mint_reads ht hmint
    refine ⟨balance, supply, hb, hs, ?_, ?_, ?_, ?_, ?_⟩
    · rw [hbal]
      exact rayMul_ray_readsAs _
    · rw [hsup]
      exact rayMul_ray_readsAs _
    · intro v hv
      exact mint_sameAccount hmint hv
    · intro burned hburn
      exact burn_after_mint ht hb hmint hburn
    · intro y user₂ rate₂ first₂ twice user₃ rate₃ first₃ once htwice honce
      obtain ⟨_, _, hb₂, hs₂, hbal₂, hsup₂⟩ := mint_twice_reads ht hmint htwice
      obtain ⟨_, _, hb₃, hs₃, hbal₃, hsup₃⟩ := mint_reads ht honce
      cases ok_unique hb₂ hb₃
      cases ok_unique hs₂ hs₃
      exact ⟨hbal₂.trans hbal₃.symm, hsup₂.trans hsup₃.symm⟩
  · intro x token' hburn
    obtain ⟨balance, supply, hb, hs, _⟩ := burn_eq_ok hburn
    obtain ⟨hle, hafter⟩ := balanceOf_after_burn ht hb hburn
    refine ⟨balance, supply, hb, hs, hle, hafter, totalSupplyAt_after_burn ht hs hburn, ?_⟩
    intro v hv
    exact burn_sameAccount hburn hv

/-- A year after alice borrowed at 10%, she borrows as much again. -/
theorem alice_borrows_again :
    ∃ lent token balance, stableScript .empty
        [(1, .mint Market.alice Market.alice (10 ^ 20) (10 ^ 26))] = .ok lent ∧
      lent.exec 31536001 (.mint Market.alice Market.alice (10 ^ 20) (10 ^ 26)) = .ok token ∧
      lent.balanceOf 31536001 Market.alice = .ok balance ∧ 11 * 10 ^ 19 < balance ∧
      token.balanceOf 31536001 Market.alice = .ok (balance + 10 ^ 20) := by
  have success : succeedsWith (stableScript .empty
      [(1, .mint Market.alice Market.alice (10 ^ 20) (10 ^ 26))]) (fun lent =>
        succeedsWith (lent.balanceOf 31536001 Market.alice) (fun balance =>
          decide (11 * 10 ^ 19 < balance ∧ (balance + 10 ^ 20) * RAY ≤ uint256Max)) &&
        (lent.exec 31536001 (.mint Market.alice Market.alice (10 ^ 20) (10 ^ 26))).isOk) = true := by
    decide +kernel
  obtain ⟨lent, hlent, hafter⟩ := succeedsWith_iff.mp success
  simp only [Bool.and_eq_true] at hafter
  obtain ⟨balance, hb, hsize⟩ := succeedsWith_iff.mp hafter.1
  obtain ⟨hmore, hfits⟩ := of_decide_eq_true hsize
  obtain ⟨token, hexec⟩ := exists_of_isOk hafter.2
  obtain ⟨first, hmint⟩ := exec_mint_eq_ok hexec
  have ht : IsBlockTimestamp 31536001 := by decide
  obtain ⟨balance', _, hb', _, reads, _⟩ :=
    (stableDebt_moves_exactly ht lent Market.alice).1 _ _ _ _ _ hmint
  cases ok_unique hb hb'
  refine ⟨lent, token, balance, hlent, hexec, hb, hmore, ?_⟩
  obtain hread | ⟨hover, _⟩ := reads
  · exact hread
  · omega

/-- At a zero rate the token lends an amount whose balance it can no longer answer. -/
theorem unreadable_loan :
    ∃ token, StableDebtToken.empty.mint 1 Market.alice Market.alice (10 ^ 60) 0 =
        .ok (true, token) ∧
      StableDebtToken.empty.balanceOf 1 Market.alice = .ok 0 ∧
      ∀ balance, token.balanceOf 1 Market.alice ≠ .ok balance := by
  have success : succeedsWith
      (StableDebtToken.empty.mint 1 Market.alice Market.alice (10 ^ 60) 0) (fun result =>
        result.1 && !(result.2.balanceOf 1 Market.alice).isOk) = true := by decide +kernel
  obtain ⟨⟨first, token⟩, hmint, hafter⟩ := succeedsWith_iff.mp success
  simp only [Bool.and_eq_true] at hafter
  obtain ⟨rfl, hfails⟩ := hafter
  refine ⟨token, hmint, rfl, ?_⟩
  intro balance hread
  rw [hread] at hfails
  cases hfails

end ElectroLend
