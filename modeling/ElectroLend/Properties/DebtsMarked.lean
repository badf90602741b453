import ElectroLend.Lending.StableReads
import ElectroLend.Lending.VariableReads
import ElectroLend.Pool.WellListed

namespace ElectroLend

open Outcome

namespace LendingPool

/-- Every debt is in a listed reserve, and marked in the bitmap of its owner. -/
structure DebtsMarked (pool : LendingPool) : Prop where
  listing : pool.WellListed
  debts : ∀ asset u, (pool.reserves asset).Owes u →
    (pool.reserves asset).variableDebtTokenAddress ≠ 0 ∧
      (pool.usersConfig u).borrowingBit (pool.reserves asset).id = true

variable {pool pool' : LendingPool} {t amount : Nat} {asset u v : Address}

theorem DebtsMarked.frame (inv : pool.DebtsMarked) (h : pool.DebtFrame pool') :
    pool'.DebtsMarked where
  listing := inv.listing.frame h.listing
  debts a w ho := by
    have same := h.listing.reserve a
    obtain ⟨hlisted, hbit⟩ := inv.debts a w (h.owes a w ho)
    rw [same.variableDebtToken, same.id, h.bits]
    exact ⟨hlisted, hbit⟩

/-- Only `v` can newly owe, in the reserve of `asset`. -/
structure MintFrame (pool pool' : LendingPool) (asset v : Address) : Prop where
  listing : pool.ListFrame pool'
  owes : ∀ a w, (pool'.reserves a).Owes w → (pool.reserves a).Owes w ∨ (a = asset ∧ w = v)
  config : pool'.usersConfig = pool.usersConfig

theorem MintFrame.setReserve {r : Reserve} (h : (pool.reserves asset).SameListing r)
    (ho : ∀ w, w ≠ v → r.Owes w → (pool.reserves asset).Owes w) :
    pool.MintFrame (pool.setReserve asset r) asset v where
  listing := .setReserve h
  owes a w hw := by
    by_cases ha : a = asset
    · subst ha
      by_cases hv : w = v
      · exact .inr ⟨rfl, hv⟩
      · exact .inl (ho w hv (by simpa using hw))
    · exact .inl (by simpa [ha] using hw)
  config := rfl

/-- A mint that is not the first one goes to somebody who already owes. -/
theorem mintVariableDebt_frame {index : Nat} {first : Bool}
    (h : pool.mintVariableDebt asset u v amount index = .ok (first, pool')) :
    pool.MintFrame pool' asset v ∧ (first = false → (pool.reserves asset).Owes v) := by
  obtain ⟨token, hm, rfl⟩ := mintVariableDebt_eq_ok h
  obtain ⟨scaled, _, _, hbals, _, hfirst⟩ := VariableDebtToken.mint_eq_ok hm
  refine ⟨.setReserve ⟨rfl, rfl, rfl, rfl, Nat.le_refl _, Nat.le_refl _⟩ ?_, ?_⟩
  · intro w hwv hw
    obtain hs | hb := hw
    · exact .inl hs
    · refine .inr ?_
      rwa [hbals, Function.update_of_ne hwv] at hb
  · intro hf
    rw [hf] at hfirst
    exact .inr (by simpa using hfirst)

theorem mintStableDebt_frame {first : Bool}
    (h : pool.mintStableDebt t asset u v amount = .ok (first, pool')) :
    pool.MintFrame pool' asset v ∧ (first = false → (pool.reserves asset).Owes v) := by
  obtain ⟨token, hm, rfl⟩ := mintStableDebt_eq_ok h
  obtain ⟨balance, _, _, _, hbal, _, _, _, _, hfirst, hbals, _⟩ := StableDebtToken.mint_eq_ok hm
  refine ⟨.setReserve ⟨rfl, rfl, rfl, rfl, Nat.le_refl _, Nat.le_refl _⟩ ?_, ?_⟩
  · intro w hwv hw
    obtain hs | hb := hw
    · refine .inl ?_
      rwa [hbals, Function.update_of_ne hwv] at hs
    · exact .inr hb
  · intro hf
    rw [hf] at hfirst
    refine .inl ?_
    intro hz
    cases ok_unique hbal (StableDebtToken.balanceOf_zero hz)
    simp at hfirst

theorem mintDebt_frame {vars : ExecuteBorrowParams} {first : Bool}
    (h : pool.mintDebt t vars = .ok (first, pool')) :
    pool.MintFrame pool' vars.asset vars.onBehalfOf ∧
      (first = false → (pool.reserves vars.asset).Owes vars.onBehalfOf) := by
  simp only [mintDebt, bind_eq_ok, ite_eq_ok] at h
  obtain ⟨mode, _, ⟨_, hm⟩ | ⟨_, hm⟩⟩ := h
  · exact mintStableDebt_frame hm
  · exact mintVariableDebt_frame hm

theorem DebtsMarked.mint (inv : pool.DebtsMarked) (h : pool.MintFrame pool' asset v)
    (listed : (pool.reserves asset).variableDebtTokenAddress ≠ 0)
    (bit : (pool.usersConfig v).borrowingBit (pool.reserves asset).id = true) :
    pool'.DebtsMarked where
  listing := inv.listing.frame h.listing
  debts a w ho := by
    have same := h.listing.reserve a
    rw [same.variableDebtToken, same.id, h.config]
    obtain hold | ⟨rfl, rfl⟩ := h.owes a w ho
    · exact inv.debts a w hold
    · exact ⟨listed, bit⟩

theorem DebtsMarked.mint_first {middle : LendingPool} (inv : pool.DebtsMarked)
    (h : pool.MintFrame middle asset v)
    (listed : (pool.reserves asset).variableDebtTokenAddress ≠ 0)
    (hset : middle.setBorrowing v (middle.reserves asset).id true = .ok pool') :
    pool'.DebtsMarked := by
  obtain ⟨config, hc, rfl⟩ := setBorrowing_eq_ok hset
  obtain ⟨_, hbits, _⟩ := UserConfigurationMap.setBorrowing_eq_ok hc
  have listing := inv.listing.frame h.listing
  refine ⟨listing.frame ⟨rfl, rfl, rfl, fun _ => .refl _⟩, ?_⟩
  intro a w ho
  change (middle.reserves a).Owes w at ho
  change (middle.reserves a).variableDebtTokenAddress ≠ 0 ∧
    ((Function.update middle.usersConfig v config) w).borrowingBit (middle.reserves a).id = true
  have same := h.listing.reserve a
  obtain hold | ⟨rfl, rfl⟩ := h.owes a w ho
  · obtain ⟨hlisted, hbit⟩ := inv.debts a w hold
    refine ⟨same.variableDebtToken ▸ hlisted, ?_⟩
    by_cases hw : w = v
    · subst hw
      rw [Function.update_self, hbits, h.config, same.id]
      split
      · rfl
      · exact hbit
    · rw [Function.update_of_ne hw, h.config, same.id]
      exact hbit
  · refine ⟨same.variableDebtToken ▸ listed, ?_⟩
    rw [Function.update_self, hbits, if_pos rfl]

theorem updateState_listed (h : pool.updateState t asset = .ok pool') :
    (pool'.reserves asset).variableDebtTokenAddress ≠ 0 := by
  obtain ⟨r, hr, rfl⟩ := updateState_eq_ok h
  obtain ⟨_, _, _, hlisted, _, _, rfl, _⟩ := Reserve.updateState_eq_ok hr
  simpa using hlisted

theorem executeBorrow_marked {vars : ExecuteBorrowParams} (inv : pool.DebtsMarked)
    (h : pool.executeBorrow t vars = .ok pool') : pool'.DebtsMarked := by
  obtain ⟨p₁, first, p₂, p₃, p₄, _, h₁, h₂, hbit, h₄, hsend⟩ := executeBorrow_eq_ok h
  have inv₁ := inv.frame (updateState_debtFrame h₁)
  have listed := updateState_listed h₁
  obtain ⟨mints, hfirst⟩ := mintDebt_frame h₂
  have inv₃ : p₃.DebtsMarked := by
    obtain ⟨_, hset⟩ | ⟨hf, rfl⟩ := hbit
    · exact inv₁.mint_first mints listed hset
    · exact inv₁.mint mints listed (inv₁.debts _ _ (hfirst (by simpa using hf))).2
  have inv₄ := inv₃.frame (updateInterestRates_debtFrame h₄)
  obtain ⟨_, hsend⟩ | ⟨_, rfl⟩ := hsend
  · exact inv₄.frame (transferUnderlyingTo_debtFrame hsend)
  · exact inv₄

theorem borrow_marked {msgSender onBehalfOf : Address} {mode : Nat} (inv : pool.DebtsMarked)
    (h : pool.borrow t msgSender asset amount mode onBehalfOf = .ok pool') :
    pool'.DebtsMarked := by
  simp only [borrow, bind_eq_ok] at h
  obtain ⟨_, _, hexec⟩ := h
  exact executeBorrow_marked inv hexec

theorem stableDebtBalanceOf_owes {r : Reserve} {debt : Nat}
    (h : r.stableDebtBalanceOf t u = .ok debt) (hpos : debt ≠ 0) : r.Owes u := by
  refine .inl ?_
  intro hz
  exact hpos ((Reserve.stableDebtBalanceOf_eq_zero_iff h).mpr hz)

theorem variableDebtBalanceOf_owes {r : Reserve} {debt : Nat}
    (h : r.variableDebtBalanceOf t u = .ok debt) (hpos : debt ≠ 0) : r.Owes u := by
  obtain ⟨_, ⟨_, rfl⟩ | ⟨hs, _⟩⟩ := Reserve.variableDebtBalanceOf_eq_ok.mp h
  · exact absurd rfl hpos
  · exact .inr hs

theorem DebtsMarked.mint_after {middle : LendingPool} (inv : pool.DebtsMarked)
    (owed : (pool.reserves asset).Owes v) (before : pool.DebtFrame middle)
    (h : middle.MintFrame pool' asset v) : pool'.DebtsMarked := by
  obtain ⟨listed, bit⟩ := inv.debts asset v owed
  have same := before.listing.reserve asset
  refine (inv.frame before).mint h (same.variableDebtToken ▸ listed) ?_
  rw [before.bits, same.id]
  exact bit

theorem swapBorrowRateMode_marked {msgSender : Address} {mode : Nat} (inv : pool.DebtsMarked)
    (h : pool.swapBorrowRateMode t msgSender asset mode = .ok pool') : pool'.DebtsMarked := by
  obtain ⟨stableDebt, variableDebt, _, p₁, _, p₂, hs, hv, _, _, h₁, hswap, h₃⟩ :=
    swapBorrowRateMode_eq_ok h
  simp only [swapDebt, ite_eq_ok, bind_eq_ok] at hswap
  refine DebtsMarked.frame ?_ (updateInterestRates_debtFrame h₃)
  have accrued := updateState_debtFrame h₁
  obtain ⟨_, middle, hburn, hmint⟩ | ⟨_, middle, hburn, hmint⟩ := hswap
  · have owed := stableDebtBalanceOf_owes hs (mintVariableDebt_amount hmint)
    exact inv.mint_after owed (accrued.trans (burnStableDebt_debtFrame hburn))
      (mintVariableDebt_frame hmint).1
  · have owed := variableDebtBalanceOf_owes hv (burnVariableDebt_amount hburn)
    exact inv.mint_after owed (accrued.trans (burnVariableDebt_debtFrame hburn))
      (mintStableDebt_frame hmint).1

theorem rebalanceStableBorrowRate_marked (inv : pool.DebtsMarked)
    (h : pool.rebalanceStableBorrowRate t asset u = .ok pool') : pool'.DebtsMarked := by
  obtain ⟨stableDebt, p₁, p₂, _, p₃, hs, h₁, h₂, h₃, h₄⟩ := rebalanceStableBorrowRate_eq_ok h
  have owed := stableDebtBalanceOf_owes hs (mintVariableDebt_amount h₃)
  exact (inv.mint_after owed ((updateState_debtFrame h₁).trans (burnStableDebt_debtFrame h₂))
    (mintVariableDebt_frame h₃).1).frame (updateInterestRates_debtFrame h₄)

end LendingPool

end ElectroLend
