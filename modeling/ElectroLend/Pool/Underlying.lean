import ElectroLend.Pool.CallDeeds

namespace ElectroLend

open Outcome LendingPool

variable {pool pool' : LendingPool} {t amount index added taken : Nat} {asset elToken u v : Address}
  {deed : Deed} {allowed : Deed → Prop}

/-- The part is not in the underlying tokens. -/
def Part.KeepsUnderlying : Part → Prop
  | payout | underlying | market => False
  | _ => True

theorem Did.tokens (h : Did t deed pool pool') (keeps : deed.part.KeepsUnderlying) : pool'.tokens = pool.tokens := by
  obtain ⟨_, stored⟩ := h.stored_inner (.of_part id keeps)
  generalize deed.part = part at stored keeps
  cases stored with
  | payout elToken token => exact keeps.elim
  | underlying token => exact keeps.elim
  | _ => rfl

theorem Deeds.tokens (h : Deeds t allowed pool pool')
    (keeps : ∀ deed, allowed deed → deed.part.KeepsUnderlying) :
    pool'.tokens = pool.tokens :=
  h.invariant (·.tokens = pool.tokens)
    (fun _ _ _ fine same did => (did.tokens (keeps _ fine)).trans same) rfl

namespace LendingPool

theorem updateState_tokens (h : pool.updateState t asset = .ok pool') :
    pool'.tokens = pool.tokens :=
  (Did.updateState h).tokens trivial

theorem updateInterestRates_tokens
    (h : pool.updateInterestRates t asset elToken added taken = .ok pool') :
    pool'.tokens = pool.tokens :=
  (Did.updateInterestRates h).tokens trivial

theorem cumulateToLiquidityIndex_tokens
    (h : pool.cumulateToLiquidityIndex asset amount = .ok pool') :
    pool'.tokens = pool.tokens :=
  (Did.cumulateToLiquidityIndex (t := 0) h).tokens trivial

theorem setUsingAsCollateral_tokens {i : Nat} {value : Bool}
    (h : pool.setUsingAsCollateral u i value = .ok pool') : pool'.tokens = pool.tokens :=
  (Did.setUsingAsCollateral (t := 0) h).tokens trivial

theorem transferELToken_tokens {validate : Bool}
    (h : pool.transferELToken t asset u v amount validate = .ok pool') :
    pool'.tokens = pool.tokens := by
  have deeds : Deeds t (fun deed => deed.part.KeepsUnderlying) pool pool' :=
    transferELToken_deeds trivial trivial trivial h
  exact deeds.tokens fun _ keeps => keeps

theorem elTokenTransferFrom_tokens {msgSender : Address}
    (h : pool.elTokenTransferFrom t msgSender asset u v amount = .ok pool') :
    pool'.tokens = pool.tokens :=
  (elTokenTransferFrom_deeds h).tokens
    (by simp [Call.deeds, Deed.part, Part.KeepsUnderlying])

theorem mintDebt_tokens {vars : ExecuteBorrowParams} {first : Bool}
    (h : pool.mintDebt t vars = .ok (first, pool')) : pool'.tokens = pool.tokens := by
  simp only [mintDebt, bind_eq_ok, ite_eq_ok] at h
  obtain ⟨_, _, ⟨_, hm⟩ | ⟨_, hm⟩⟩ := h
  · obtain ⟨_, _, rfl⟩ := mintStableDebt_eq_ok hm
    rfl
  · obtain ⟨_, _, rfl⟩ := mintVariableDebt_eq_ok hm
    rfl

theorem mintELToken_tokens {first : Bool}
    (h : pool.mintELToken asset u amount = .ok (first, pool')) : pool'.tokens = pool.tokens :=
  (Did.mintELToken (t := 0) h).tokens trivial

/-- Not the elToken of any reserve. -/
def NotELToken (pool : LendingPool) (account : Address) : Prop :=
  ∀ asset, (pool.reserves asset).elTokenAddress ≠ 0 →
    account ≠ (pool.reserves asset).elTokenAddress

theorem NotELToken.congr (hu : pool.NotELToken u)
    (h : ∀ a, (pool'.reserves a).elTokenAddress = (pool.reserves a).elTokenAddress) :
    pool'.NotELToken u := by
  intro a ha
  rw [h a] at ha ⊢
  exact hu a ha

theorem pullUnderlying_balance
    (hu : (pool.reserves asset).elTokenAddress ≠ 0 → u ≠ (pool.reserves asset).elTokenAddress)
    (h : pool.pullUnderlying asset u (pool.reserves asset).elTokenAddress amount = .ok pool') :
    pool'.underlyingBalance asset = pool.underlyingBalance asset + amount := by
  obtain ⟨token, hm, rfl⟩ := pullUnderlying_eq_ok h
  have moved := moveBalance_recipient (hu (moveBalance_nonzero hm).2) hm
  simpa [underlyingBalance, ERC20.balanceOf] using moved

theorem transferUnderlyingTo_balance (hv : pool.NotELToken v)
    (h : pool.transferUnderlyingTo asset (pool.reserves asset).elTokenAddress v amount =
      .ok pool') :
    amount ≤ pool.underlyingBalance asset ∧
      pool'.underlyingBalance asset = pool.underlyingBalance asset - amount := by
  obtain ⟨token, hm, rfl⟩ := transferUnderlyingTo_eq_ok h
  have moved := moveBalance_sender (Ne.symm (hv asset (moveBalance_nonzero hm).1)) hm
  simpa [underlyingBalance, ERC20.balanceOf] using moved

theorem burnELToken_balance
    (hv : (pool.reserves asset).elTokenAddress ≠ 0 → v ≠ (pool.reserves asset).elTokenAddress)
    (h : pool.burnELToken asset u v amount = .ok pool') :
    amount ≤ pool.underlyingBalance asset ∧
      pool'.underlyingBalance asset = pool.underlyingBalance asset - amount := by
  obtain ⟨elToken, token, hb, rfl⟩ := burnELToken_eq_ok h
  obtain ⟨_, _, _, _, _, _, _, _, _, hsend⟩ := ELToken.burn_eq_ok hb
  obtain ⟨hm, _⟩ := SafeERC20.safeTransfer_balances hsend
  have moved := moveBalance_sender (Ne.symm (hv (moveBalance_nonzero hm).1)) hm
  simpa [underlyingBalance, ERC20.balanceOf] using moved

end LendingPool

end ElectroLend
