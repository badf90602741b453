import ElectroLend.Lending.Backing
import ElectroLend.Pool.RatesFrame

namespace ElectroLend

open Outcome

/-- An update at `t` would leave both indexes as they are. -/
structure Reserve.IndexesCurrent (r : Reserve) (t : Nat) : Prop where
  liquidity : r.nextLiquidityIndex t = .ok r.liquidityIndex
  variableBorrow : r.nextVariableBorrowIndex t = .ok r.variableBorrowIndex

namespace LendingPool

/-- A reserve at par with these supplies and at least this liquidity, which nobody may pull out of
its elToken. -/
structure ParBooks (pool : LendingPool) (asset elToken : Address) (supply debt liquidity : Nat) :
    Prop where
  par : (pool.reserves asset).AtPar
  address : (pool.reserves asset).elTokenAddress = elToken
  supply : (pool.reserves asset).elToken.totalSupply = supply
  debt : (pool.reserves asset).variableDebtToken.totalSupply = debt
  liquidity : liquidity ≤ (pool.tokens asset).balances elToken
  allowances : ∀ spender, (pool.tokens asset).allowances elToken spender = 0

/-- The stored rates are covered at this liquidity and debt. -/
def CoveredAt (pool : LendingPool) (asset : Address) (liquidity debt : Nat) : Prop :=
  InterestCovered (pool.reserves asset).currentLiquidityRate
    (pool.reserves asset).currentVariableBorrowRate liquidity debt

variable {pool pool' : LendingPool} {t amount added taken supply debt liquidity : Nat}
  {asset elToken u v : Address}

theorem CoveredAt.frame (h : pool.RatesFrame pool') (hc : pool.CoveredAt asset liquidity debt) :
    pool'.CoveredAt asset liquidity debt := by
  have stored := Reserve.storedRates_of_rateInputs (h.inputs asset)
  simp only [Reserve.storedRates, InterestRates.mk.injEq] at stored
  obtain ⟨hliquidity, _, hvariable⟩ := stored
  rw [CoveredAt, hliquidity, hvariable]
  exact hc

theorem ParBooks.setReserve {r : Reserve}
    (h : pool.ParBooks asset elToken supply debt liquidity) (par : r.AtPar)
    (address : r.elTokenAddress = elToken) :
    (pool.setReserve asset r).ParBooks asset elToken r.elToken.totalSupply
      r.variableDebtToken.totalSupply liquidity :=
  ⟨by simpa using par, by simpa using address, by simp, by simp, h.liquidity, h.allowances⟩

theorem updateState_parBooks (h : pool.ParBooks asset elToken supply debt liquidity)
    (current : (pool.reserves asset).IndexesCurrent t)
    (hu : pool.updateState t asset = .ok pool') :
    pool'.ParBooks asset elToken supply debt liquidity := by
  obtain ⟨r, hr, rfl⟩ := updateState_eq_ok hu
  obtain ⟨_, _, minted, _, hl, hv, rfl, hminted⟩ := Reserve.updateState_eq_ok hr
  cases ok_unique hl current.liquidity
  cases ok_unique hv current.variableBorrow
  have none := hminted rfl rfl h.par.stable
  have books := h.setReserve
    (r := { pool.reserves asset with
      lastUpdateTimestamp := uint40 t
      elToken := (pool.reserves asset).elToken.creditTreasury minted })
    ⟨h.par.liquidityIndex, h.par.variableBorrowIndex, h.par.stable⟩ h.address
  simpa [none, h.supply, h.debt] using books

/-- An update of the rates covers the liquidity it predicts. -/
theorem updateInterestRates_parBooks (h : pool.ParBooks asset elToken supply debt liquidity)
    (hu : pool.updateInterestRates t asset elToken added taken = .ok pool') :
    ∃ balance, liquidity ≤ balance ∧ taken ≤ balance + added ∧
      pool'.ParBooks asset elToken supply debt balance ∧
      pool'.CoveredAt asset (balance + added - taken) debt := by
  obtain ⟨r, hr, rfl⟩ := updateInterestRates_eq_ok hu
  have hmax := Reserve.updateInterestRates_variableRate_le hr
  obtain ⟨hle, hat, _⟩ := Reserve.updateInterestRates_ratesAt hr
  obtain ⟨rates, _, rfl⟩ := Reserve.updateInterestRates_eq_ok hr
  refine ⟨(pool.tokens asset).balances elToken, h.liquidity, hle, ?_, ?_⟩
  · have books : pool.ParBooks asset elToken supply debt ((pool.tokens asset).balances elToken) :=
      ⟨h.par, h.address, h.supply, h.debt, Nat.le_refl _, h.allowances⟩
    have updated := books.setReserve (r := { pool.reserves asset with
        currentLiquidityRate := rates.liquidityRate
        currentStableBorrowRate := rates.stableBorrowRate
        currentVariableBorrowRate := rates.variableBorrowRate })
      ⟨h.par.liquidityIndex, h.par.variableBorrowIndex, h.par.stable⟩ h.address
    simpa [h.supply, h.debt] using updated
  · have covered := hat.covered hmax h.par.variableBorrowIndex h.par.stable
    dsimp only at covered
    rw [h.debt] at covered
    simpa [CoveredAt] using covered

theorem setUsingAsCollateral_parBooks {i : Nat} {value : Bool}
    (h : pool.ParBooks asset elToken supply debt liquidity)
    (hs : pool.setUsingAsCollateral u i value = .ok pool') :
    pool'.ParBooks asset elToken supply debt liquidity := by
  obtain ⟨_, _, rfl⟩ := setUsingAsCollateral_eq_ok hs
  exact ⟨h.par, h.address, h.supply, h.debt, h.liquidity, h.allowances⟩

theorem setBorrowing_parBooks {i : Nat} {value : Bool}
    (h : pool.ParBooks asset elToken supply debt liquidity)
    (hs : pool.setBorrowing u i value = .ok pool') :
    pool'.ParBooks asset elToken supply debt liquidity := by
  obtain ⟨_, _, rfl⟩ := setBorrowing_eq_ok hs
  exact ⟨h.par, h.address, h.supply, h.debt, h.liquidity, h.allowances⟩

/-- Nothing can be pulled from the elToken, so what is pulled into it adds to its liquidity. -/
theorem pullUnderlying_parBooks (h : pool.ParBooks asset elToken supply debt liquidity)
    (hp : pool.pullUnderlying asset u elToken amount = .ok pool') :
    pool'.ParBooks asset elToken supply debt (liquidity + amount) := by
  simp only [pullUnderlying, bind_eq_ok, pure_eq_ok] at hp
  obtain ⟨token, ht, rfl⟩ := hp
  have hm := SafeERC20.safeTransferFrom_balances ht
  obtain ⟨spent, left⟩ := SafeERC20.safeTransferFrom_allowances ht
  have received : liquidity + amount ≤ token.balances elToken := by
    by_cases hu : u = elToken
    · subst hu
      rw [(moveBalance_self hm).2]
      rw [h.allowances] at spent
      have := h.liquidity
      omega
    · rw [moveBalance_recipient hu hm]
      exact Nat.add_le_add_right h.liquidity amount
  refine ⟨h.par, h.address, h.supply, h.debt, by simpa using received, ?_⟩
  intro spender
  have hle := left elToken spender
  rw [h.allowances] at hle
  simpa using hle

theorem safeTransfer_liquidity {token token' : ERC20}
    (hle : liquidity ≤ token.balances elToken)
    (ht : SafeERC20.safeTransfer token elToken v amount = .ok token') :
    liquidity - amount ≤ token'.balances elToken := by
  obtain ⟨hm, _⟩ := SafeERC20.safeTransfer_balances ht
  by_cases hv : elToken = v
  · subst hv
    rw [(moveBalance_self hm).2]
    omega
  · rw [(moveBalance_sender hv hm).2]
    omega

theorem transferUnderlyingTo_parBooks (h : pool.ParBooks asset elToken supply debt liquidity)
    (hs : pool.transferUnderlyingTo asset elToken v amount = .ok pool') :
    pool'.ParBooks asset elToken supply debt (liquidity - amount) := by
  simp only [transferUnderlyingTo, ELToken.transferUnderlyingTo, bind_eq_ok, pure_eq_ok] at hs
  obtain ⟨token, ht, rfl⟩ := hs
  have left := safeTransfer_liquidity h.liquidity ht
  have same := (SafeERC20.safeTransfer_balances ht).2
  refine ⟨h.par, h.address, h.supply, h.debt, by simpa using left, ?_⟩
  intro spender
  simpa [same] using h.allowances spender

theorem mintELToken_parBooks {first : Bool}
    (h : pool.ParBooks asset elToken supply debt liquidity)
    (hm : pool.mintELToken asset u amount = .ok (first, pool')) :
    pool'.ParBooks asset elToken (supply + amount) debt liquidity := by
  obtain ⟨token, hmint, rfl⟩ := mintELToken_eq_ok hm
  obtain ⟨scaled, hd, _, _, htotal, _⟩ := ELToken.mint_eq_ok hmint
  rw [h.par.liquidityIndex] at hd
  have books := h.setReserve (r := { pool.reserves asset with elToken := token })
    ⟨h.par.liquidityIndex, h.par.variableBorrowIndex, h.par.stable⟩ h.address
  simpa [htotal, rayDiv_by_ray hd, h.supply, h.debt] using books

theorem burnELToken_parBooks (h : pool.ParBooks asset elToken supply debt liquidity)
    (hb : pool.burnELToken asset u v amount = .ok pool') :
    amount ≤ supply ∧ pool'.ParBooks asset elToken (supply - amount) debt (liquidity - amount) := by
  obtain ⟨token, underlying, hburn, rfl⟩ := burnELToken_eq_ok hb
  obtain ⟨scaled, hd, _, _, _, htotal, hle, _, _, hsend⟩ := ELToken.burn_eq_ok hburn
  rw [h.par.liquidityIndex] at hd
  rw [rayDiv_by_ray hd, h.supply] at hle htotal
  rw [h.address] at hsend
  have left := safeTransfer_liquidity h.liquidity hsend
  have same := (SafeERC20.safeTransfer_balances hsend).2
  refine ⟨hle, ⟨?_, ?_, ?_, ?_, ?_, ?_⟩⟩
  · exact ⟨by simpa using h.par.liquidityIndex, by simpa using h.par.variableBorrowIndex,
      by simpa using h.par.stable⟩
  · simpa using h.address
  · simpa using htotal
  · simpa using h.debt
  · simpa using left
  · intro spender
    simpa [same] using h.allowances spender

theorem mintVariableDebt_parBooks {first : Bool}
    (h : pool.ParBooks asset elToken supply debt liquidity)
    (hm : pool.mintVariableDebt asset u v amount (pool.reserves asset).variableBorrowIndex =
      .ok (first, pool')) :
    pool'.ParBooks asset elToken supply (debt + amount) liquidity := by
  obtain ⟨token, hmint, rfl⟩ := mintVariableDebt_eq_ok hm
  obtain ⟨scaled, hd, _, _, htotal, _⟩ := VariableDebtToken.mint_eq_ok hmint
  rw [h.par.variableBorrowIndex] at hd
  have books := h.setReserve (r := { pool.reserves asset with variableDebtToken := token })
    ⟨h.par.liquidityIndex, h.par.variableBorrowIndex, h.par.stable⟩ h.address
  simpa [htotal, rayDiv_by_ray hd, h.supply, h.debt] using books

theorem burnVariableDebt_parBooks (h : pool.ParBooks asset elToken supply debt liquidity)
    (hb : pool.burnVariableDebt asset u amount = .ok pool') :
    amount ≤ debt ∧ pool'.ParBooks asset elToken supply (debt - amount) liquidity := by
  obtain ⟨token, hburn, rfl⟩ := burnVariableDebt_eq_ok hb
  obtain ⟨scaled, hd, _, _, hle, _, htotal⟩ := VariableDebtToken.burn_eq_ok hburn
  rw [h.par.variableBorrowIndex] at hd
  rw [rayDiv_by_ray hd, h.debt] at hle htotal
  have books := h.setReserve (r := { pool.reserves asset with variableDebtToken := token })
    ⟨h.par.liquidityIndex, h.par.variableBorrowIndex, h.par.stable⟩ h.address
  refine ⟨hle, ?_⟩
  simpa [htotal, h.supply] using books

end LendingPool

end ElectroLend
