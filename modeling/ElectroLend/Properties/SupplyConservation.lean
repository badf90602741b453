import ElectroLend.Pool.Changes
import ElectroLend.Pool.Scripts
import ElectroLend.Tokens.SupplyRuns

namespace ElectroLend

open Outcome FiniteTotals

structure ScaledTokens where
  elToken : ELToken
  variableDebtToken : VariableDebtToken

/-- The tokens that any calls of their entry points reach. -/
inductive ScaledTokens.Reachable : ScaledTokens → Prop
  | start (treasury : Address) (allowances borrowAllowances : Address → Address → Nat) :
      Reachable ⟨⟨.empty, allowances, treasury⟩, ⟨.empty, borrowAllowances⟩⟩
  | elToken {tokens : ScaledTokens} {elToken' : ELToken} (before : Reachable tokens)
      (call : ELTokenCall) (success : tokens.elToken.exec call = .ok elToken') :
      Reachable { tokens with elToken := elToken' }
  | variableDebtToken {tokens : ScaledTokens} {variableDebtToken' : VariableDebtToken}
      (before : Reachable tokens) (call : VariableDebtCall)
      (success : tokens.variableDebtToken.exec call = .ok variableDebtToken') :
      Reachable { tokens with variableDebtToken := variableDebtToken' }

namespace ScaledTokens

variable {tokens : ScaledTokens}

/-- The scaled balances of both tokens sum to their scaled total supplies. -/
structure Conserved (tokens : ScaledTokens) : Prop where
  elToken : SumsTo tokens.elToken.scaledBalanceOf tokens.elToken.scaledTotalSupply
  variableDebtToken : SumsTo tokens.variableDebtToken.scaledBalanceOf
    tokens.variableDebtToken.scaledTotalSupply

theorem Reachable.conserved (h : Reachable tokens) : tokens.Conserved := by
  induction h with
  | start treasury allowances borrowAllowances => exact ⟨SumsTo.zero, SumsTo.zero⟩
  | elToken _ call success ih =>
    exact ⟨(ELToken.exec_accounted success).supply ih.elToken, ih.variableDebtToken⟩
  | variableDebtToken _ call success ih =>
    exact ⟨ih.elToken, (VariableDebtToken.exec_accounted success).supply ih.variableDebtToken⟩

end ScaledTokens

/-- In every state the scaled balances sum to the scaled supplies, and a call changes the balances of
no account but those it names, of none when it is a transfer to oneself. -/
theorem scaled_supplies_conserved {tokens : ScaledTokens} (reachable : tokens.Reachable) :
    tokens.Conserved ∧
      (∀ call elToken', tokens.elToken.exec call = .ok elToken' →
        ∀ u, u ∉ call.accounts tokens.elToken.treasury →
          elToken'.scaledBalanceOf u = tokens.elToken.scaledBalanceOf u) ∧
      ∀ call variableDebtToken', tokens.variableDebtToken.exec call = .ok variableDebtToken' →
        ∀ u, u ∉ call.accounts →
          variableDebtToken'.scaledBalanceOf u = tokens.variableDebtToken.scaledBalanceOf u :=
  ⟨reachable.conserved, fun _ _ h => (ELToken.exec_accounted h).others,
    fun _ _ h => (VariableDebtToken.exec_accounted h).others⟩

/-- Alice gets elTokens, transfers some to herself and some to bob, and bob borrows. -/
theorem traded_tokens_conserved :
    ∃ tokens : ScaledTokens, tokens.elToken.balances Market.alice = 7 ∧
      tokens.elToken.balances Market.bob = 3 ∧ tokens.variableDebtToken.totalSupply = 4 ∧
      tokens.Conserved := by
  let answers : PoolAnswers := ⟨.ok RAY, fun _ _ _ _ _ => .ok ()⟩
  let fresh : ELToken := ⟨.empty, fun _ _ => 0, Market.treasury⟩
  have script : succeedsWith (do
      let minted ← fresh.exec (.mint Market.alice 10 RAY)
      let kept ← minted.exec (.transfer answers Market.alice Market.alice 5)
      let moved ← kept.exec (.transfer answers Market.alice Market.bob 3)
      let lent ← VariableDebtToken.empty.exec (.mint Market.bob Market.bob 4 RAY)
      pure (moved, lent)) (fun (moved, lent) => moved.balances Market.alice == 7 &&
        moved.balances Market.bob == 3 && lent.totalSupply == 4) = true := by decide +kernel
  obtain ⟨_, hscript, hbalances⟩ := succeedsWith_iff.mp script
  simp only [bind_eq_ok, pure_eq_ok] at hscript
  obtain ⟨minted, hmint, kept, hself, moved, hmove, lent, hlend, rfl⟩ := hscript
  simp only [Bool.and_eq_true, beq_iff_eq] at hbalances
  obtain ⟨⟨halice, hbob⟩, hlent⟩ := hbalances
  have start : ScaledTokens.Reachable ⟨fresh, .empty⟩ := .start _ _ _
  have traded := ((start.elToken _ hmint).elToken _ hself).elToken _ hmove
  have conserved := (scaled_supplies_conserved (traded.variableDebtToken _ hlend)).1
  exact ⟨_, halice, hbob, hlent, conserved⟩

def Reserve.scaledTokens (r : Reserve) : ScaledTokens := ⟨r.elToken, r.variableDebtToken⟩

namespace Reserve

variable {r r' : Reserve} {t : Nat} {elToken : ELToken}

theorem mintLinearInterest_reachable {index : Nat} (h : r.scaledTokens.Reachable)
    (hmint : r.mintLinearInterest t index = .ok elToken) :
    { r with elToken }.scaledTokens.Reachable := by
  simp only [mintLinearInterest, ite_eq_ok, bind_eq_ok, Except.ok.injEq] at hmint
  obtain ⟨_, _, _, amount, _, hm⟩ | ⟨_, rfl⟩ := hmint
  · exact h.elToken (.mintToTreasury amount r.liquidityIndex) hm
  · exact h

theorem mintToTreasury_reachable {previous timestamp : Nat} (h : r.scaledTokens.Reachable)
    (hmint : r.mintToTreasury t previous timestamp = .ok elToken) :
    { r with elToken }.scaledTokens.Reachable := by
  simp only [mintToTreasury, ite_eq_ok, bind_eq_ok, Except.ok.injEq] at hmint
  obtain ⟨_, rfl⟩ | ⟨_, _, _, _, _, _, _, _, _, _, _, _, _, _, _, _, _, amount, _,
    ⟨_, hm⟩ | ⟨_, rfl⟩⟩ := hmint
  · exact h
  · exact h.elToken (.mintToTreasury amount r.liquidityIndex) hm
  · exact h

theorem updateState_reachable (h : r.scaledTokens.Reachable) (hr : r.updateState t = .ok r') :
    r'.scaledTokens.Reachable := by
  simp only [updateState, updateIndexes, bind_eq_ok, pure_eq_ok] at hr
  obtain ⟨_, _, accrued, ⟨index, _, elToken, hlinear, variableIndex, _, rfl⟩, _, hshare, rfl⟩ := hr
  have first := mintLinearInterest_reachable h hlinear
  exact mintToTreasury_reachable (r := { r with
    elToken, liquidityIndex := index, variableBorrowIndex := variableIndex,
    lastUpdateTimestamp := uint40 t }) first hshare

end Reserve

namespace LendingPool

variable {pool pool' : LendingPool} {t : Nat} {events : List Event}

/-- Every storage operation of the pool is a run of the entry points of the tokens. -/
theorem Write.scaledTokens (h : Write t events pool pool')
    (reachable : ∀ asset, (pool.reserves asset).scaledTokens.Reachable) (asset : Address) :
    (pool'.reserves asset).scaledTokens.Reachable := by
  have stored : ∀ {a : Address} {r : Reserve}, r.scaledTokens.Reachable →
      ((pool.setReserve a r).reserves asset).scaledTokens.Reachable := by
    intro a r hr
    exact setReserve_forall (P := fun _ r' => r'.scaledTokens.Reachable) hr reachable asset
  have kept : ∀ {a : Address} {r : Reserve},
      r.scaledTokens = (pool.reserves a).scaledTokens →
      ((pool.setReserve a r).reserves asset).scaledTokens.Reachable := by
    intro a r hr
    refine stored ?_
    rw [hr]
    exact reachable a
  cases h with
  | updateState h =>
    obtain ⟨r, hr, rfl⟩ := updateState_eq_ok h
    exact stored (Reserve.updateState_reachable (reachable _) hr)
  | updateInterestRates _ h =>
    obtain ⟨r, hr, rfl⟩ := updateInterestRates_eq_ok h
    obtain ⟨_, _, rfl⟩ := Reserve.updateInterestRates_eq_ok hr
    exact kept rfl
  | cumulateToLiquidityIndex h =>
    obtain ⟨_, _, rfl⟩ := cumulateToLiquidityIndex_eq_ok h
    exact kept rfl
  | setUsingAsCollateral _ h =>
    obtain ⟨_, _, rfl⟩ := setUsingAsCollateral_eq_ok h
    exact reachable asset
  | setBorrowing _ h =>
    obtain ⟨_, _, rfl⟩ := setBorrowing_eq_ok h
    exact reachable asset
  | setToken _ a token => exact reachable asset
  | setELToken hcall => exact stored ((reachable _).elToken _ hcall)
  | mintVariableDebt h =>
    obtain ⟨_, hmint, rfl⟩ := mintVariableDebt_eq_ok h
    exact stored ((reachable _).variableDebtToken (.mint _ _ _ _) (bind_eq_ok.mpr ⟨_, hmint, rfl⟩))
  | burnVariableDebt h =>
    obtain ⟨_, hburn, rfl⟩ := burnVariableDebt_eq_ok h
    exact stored ((reachable _).variableDebtToken (.burn _ _ _) hburn)
  | mintStableDebt _ h =>
    obtain ⟨_, _, rfl⟩ := mintStableDebt_eq_ok h
    exact kept rfl
  | burnStableDebt _ h =>
    obtain ⟨_, _, rfl⟩ := burnStableDebt_eq_ok h
    exact kept rfl
  | approveStableDelegation _ msgSender a delegatee amount => exact kept rfl
  | approveVariableDelegation _ msgSender a delegatee amount =>
    exact stored ((reachable a).variableDebtToken (.approveDelegation msgSender delegatee amount) rfl)
  | @listReserve _ _ input h =>
    obtain ⟨_, id, configuration, hreserves⟩ := listReserve_reserves h
    rw [hreserves]
    by_cases ha : asset = input.underlyingAsset
    · subst ha
      rw [Function.update_self]
      exact .start _ _ _
    · rw [Function.update_of_ne ha]
      exact reachable asset
  | setConfiguration _ a configuration => exact kept rfl
  | setReserveInterestRateStrategy _ a strategy => exact kept rfl
  | setWorld _ paused priceOracle lendingRateOracle => exact reachable asset

end LendingPool

open LendingPool

theorem Visited.scaledTokens_conserved {rules : Rules} {t : Nat} {pool : LendingPool}
    (visited : Visited rules t pool) (asset : Address) :
    (pool.reserves asset).scaledTokens.Conserved := by
  have tokens : TimedInvariant fun _ pool =>
      ∀ asset, (pool.reserves asset).scaledTokens.Reachable := by
    refine ⟨fun _ _ _ _ h => h, ?_⟩
    intro t events pool pool' _ reachable write
    exact write.scaledTokens reachable
  refine ScaledTokens.Reachable.conserved (tokens.visited ?_ visited asset)
  intro _ _ _ _ _ _ _
  exact .start _ _ _

end ElectroLend
