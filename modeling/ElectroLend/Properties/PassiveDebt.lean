import ElectroLend.Properties.CreditDelegation
import ElectroLend.Properties.PassiveHoldings

namespace ElectroLend

open Outcome LendingPool

variable {pool pool' : LendingPool} {t t' amount owed : Nat} {asset trusted u : Address}

section Tokens

variable {allowances allowances' : Address → Address → Nat} {user v : Address}

/-- Nothing can be opened for an account by anybody but itself and whom it trusts. -/
theorem spendBorrowAllowance_undelegated (none : ∀ c, c ≠ trusted → allowances u c = 0)
    (nonzero : amount ≠ 0) (other : ¬(v = u ∧ (user = u ∨ user = trusted)))
    (h : spendBorrowAllowance allowances user v amount = .ok allowances') :
    v ≠ u ∧ ∀ c, c ≠ trusted → allowances' u c = 0 := by
  simp only [spendBorrowAllowance, decreaseBorrowAllowance, ite_eq_ok, bind_eq_ok,
    SafeMath.sub_eq_ok, pure_eq_ok, Except.ok.injEq] at h
  have hv : v ≠ u := by
    rintro rfl
    obtain ⟨_, _, ⟨hle, rfl⟩, rfl⟩ | ⟨hself, rfl⟩ := h
    · rw [none user (fun hu => other ⟨rfl, .inr hu⟩)] at hle
      omega
    · exact other ⟨rfl, .inl (not_not.mp hself)⟩
  refine ⟨hv, fun c hc => ?_⟩
  obtain ⟨_, _, ⟨_, rfl⟩, rfl⟩ | ⟨_, rfl⟩ := h
  · rw [Function.update_of_ne (Ne.symm hv)]
    exact none c hc
  · exact none c hc

/-- The account owes at most `owed` scaled units, and has delegated credit to nobody else. -/
structure VariableDebtToken.Keeps (token : VariableDebtToken) (trusted u : Address) (owed : Nat) :
    Prop where
  scaled : token.balances u ≤ owed
  undelegated : ∀ c, c ≠ trusted → token.borrowAllowances u c = 0

theorem VariableDebtToken.Keeps.mint {token token' : VariableDebtToken} {index : Nat} {first : Bool}
    (keeps : token.Keeps trusted u owed) (nonzero : amount ≠ 0)
    (other : ¬(v = u ∧ (user = u ∨ user = trusted)))
    (h : token.mint user v amount index = .ok (first, token')) : token'.Keeps trusted u owed := by
  obtain ⟨hv, none⟩ := spendBorrowAllowance_undelegated keeps.undelegated nonzero other
    (VariableDebtToken.mint_allowances h)
  obtain ⟨_, _, _, hbalances, _, _⟩ := VariableDebtToken.mint_eq_ok h
  refine ⟨?_, none⟩
  rw [hbalances, Function.update_of_ne hv.symm]
  exact keeps.scaled

theorem VariableDebtToken.burn_scaled_le {token token' : VariableDebtToken} {index : Nat}
    (h : token.burn v amount index = .ok token') : token'.balances u ≤ token.balances u := by
  obtain ⟨scaled, _, _, _, _, hbalances, _⟩ := VariableDebtToken.burn_eq_ok h
  rw [hbalances]
  by_cases hu : u = v
  · subst hu
    rw [Function.update_self]
    exact Nat.sub_le _ _
  · rw [Function.update_of_ne hu]

theorem VariableDebtToken.Keeps.burn {token token' : VariableDebtToken} {index : Nat}
    (keeps : token.Keeps trusted u owed) (h : token.burn v amount index = .ok token') :
    token'.Keeps trusted u owed :=
  ⟨(burn_scaled_le h).trans keeps.scaled,
    by rw [VariableDebtToken.burn_allowances h]; exact keeps.undelegated⟩

/-- The account has no stable debt, and has delegated credit to nobody else. -/
structure StableDebtToken.Keeps (token : StableDebtToken) (trusted u : Address) : Prop where
  principal : token.balances u = 0
  undelegated : ∀ c, c ≠ trusted → token.borrowAllowances u c = 0

theorem StableDebtToken.Keeps.mint {token token' : StableDebtToken} {rate : Nat} {first : Bool}
    (keeps : token.Keeps trusted u) (nonzero : amount ≠ 0)
    (other : ¬(v = u ∧ (user = u ∨ user = trusted)))
    (h : token.mint t user v amount rate = .ok (first, token')) : token'.Keeps trusted u := by
  obtain ⟨hv, none⟩ := spendBorrowAllowance_undelegated keeps.undelegated nonzero other
    (StableDebtToken.mint_allowances h)
  obtain ⟨_, _, _, _, _, _, _, _, _, _, hbalances, _⟩ := StableDebtToken.mint_eq_ok h
  refine ⟨?_, none⟩
  rw [hbalances, Function.update_of_ne hv.symm]
  exact keeps.principal

theorem StableDebtToken.burn_principal_zero {token token' : StableDebtToken}
    (none : token.balances u = 0) (h : token.burn t v amount = .ok token') :
    token'.balances u = 0 := by
  obtain ⟨balance, _, hread, _, _, _, hbalances, _⟩ := StableDebtToken.burn_eq_ok h
  rw [hbalances]
  by_cases hu : u = v
  · subst hu
    rw [StableDebtToken.balanceOf_zero none] at hread
    obtain rfl := Except.ok.inj hread
    rw [Function.update_self, Nat.zero_sub]
  · rw [Function.update_of_ne hu]
    exact none

theorem StableDebtToken.Keeps.burn {token token' : StableDebtToken} (keeps : token.Keeps trusted u)
    (h : token.burn t v amount = .ok token') : token'.Keeps trusted u :=
  ⟨burn_principal_zero keeps.principal h,
    by rw [StableDebtToken.burn_allowances h]; exact keeps.undelegated⟩

end Tokens

/-- Both debt tokens of the asset. -/
structure LendingPool.KeepsDebt (pool : LendingPool) (asset trusted u : Address) (owed : Nat) :
    Prop where
  variableDebt : (pool.reserves asset).variableDebtToken.Keeps trusted u owed
  stableDebt : (pool.reserves asset).stableDebtToken.Keeps trusted u

theorem LendingPool.KeepsDebt.setReserve (keeps : pool.KeepsDebt asset trusted u owed) {a : Address}
    {r : Reserve} (variableDebt : asset = a → r.variableDebtToken.Keeps trusted u owed)
    (stableDebt : asset = a → r.stableDebtToken.Keeps trusted u) :
    (pool.setReserve a r).KeepsDebt asset trusted u owed := by
  by_cases ha : asset = a
  · subst ha
    exact ⟨by simpa using variableDebt rfl, by simpa using stableDebt rfl⟩
  · exact ⟨by simpa [ha] using keeps.variableDebt, by simpa [ha] using keeps.stableDebt⟩

/-- The deed puts the account into debt by its own hand or by that of `trusted`, or delegates its
credit. -/
def Deed.Indebts (asset trusted u : Address) : Deed → Prop
  | mintDebt a _ user onBehalfOf => a = asset ∧ onBehalfOf = u ∧ (user = u ∨ user = trusted)
  | approveDelegation a _ delegator => a = asset ∧ delegator = u
  | _ => False

theorem approveDelegation_undelegated {allowances : Address → Address → Nat}
    {delegator delegatee : Address} (none : ∀ c, c ≠ trusted → allowances u c = 0)
    (hu : u ≠ delegator) (c : Address) (hc : c ≠ trusted) :
    approveDelegation allowances delegator delegatee amount u c = 0 := by
  rw [approveDelegation_apply, if_neg (fun h => hu h.1.symm)]
  exact none c hc

/-- Every deed that does not put the account into debt leaves it what it owes, or less. -/
theorem Did.keepsDebt {deed : Deed} (h : Did t deed pool pool') (fine : ¬deed.Indebts asset trusted u)
    (keeps : pool.KeepsDebt asset trusted u owed) : pool'.KeepsDebt asset trusted u owed := by
  have kept : ∀ {a : Address} {r : Reserve},
      r.variableDebtToken = (pool.reserves a).variableDebtToken →
      r.stableDebtToken = (pool.reserves a).stableDebtToken →
      (pool.setReserve a r).KeepsDebt asset trusted u owed := by
    intro a r hv hs
    exact keeps.setReserve (fun ha => by rw [hv, ← ha]; exact keeps.variableDebt)
      (fun ha => by rw [hs, ← ha]; exact keeps.stableDebt)
  cases h with
  | updateState h =>
    obtain ⟨r, hr, rfl⟩ := updateState_eq_ok h
    obtain ⟨_, _, _, _, _, _, rfl, _⟩ := Reserve.updateState_eq_ok hr
    exact kept rfl rfl
  | updateInterestRates h =>
    obtain ⟨r, hr, rfl⟩ := updateInterestRates_eq_ok h
    obtain ⟨_, _, rfl⟩ := Reserve.updateInterestRates_eq_ok hr
    exact kept rfl rfl
  | cumulateToLiquidityIndex h =>
    obtain ⟨_, _, rfl⟩ := cumulateToLiquidityIndex_eq_ok h
    exact kept rfl rfl
  | mintELToken h =>
    obtain ⟨_, _, rfl⟩ := mintELToken_eq_ok h
    exact kept rfl rfl
  | @burnELToken _ _ a _ _ _ h =>
    obtain ⟨elToken, _, _, rfl⟩ := burnELToken_eq_ok h
    have burned : (pool.setReserve a { pool.reserves a with elToken }).KeepsDebt asset trusted u owed :=
      kept rfl rfl
    exact ⟨burned.variableDebt, burned.stableDebt⟩
  | moveELToken _ => exact kept rfl rfl
  | spendELToken _ _ _ => exact kept rfl rfl
  | approveELToken _ => exact kept rfl rfl
  | lowerELTokenAllowance _ _ => exact kept rfl rfl
  | mintVariableDebt h =>
    obtain ⟨_, hm, rfl⟩ := mintVariableDebt_eq_ok h
    exact keeps.setReserve
      (fun ha => (ha ▸ keeps.variableDebt).mint (mintVariableDebt_amount h)
        (fun hu => fine ⟨ha.symm, hu⟩) hm)
      (fun ha => ha ▸ keeps.stableDebt)
  | mintStableDebt nonzero h =>
    obtain ⟨_, hm, rfl⟩ := mintStableDebt_eq_ok h
    exact keeps.setReserve (fun ha => ha ▸ keeps.variableDebt)
      (fun ha => (ha ▸ keeps.stableDebt).mint nonzero (fun hu => fine ⟨ha.symm, hu⟩) hm)
  | burnVariableDebt h =>
    obtain ⟨_, hb, rfl⟩ := burnVariableDebt_eq_ok h
    exact keeps.setReserve (fun ha => (ha ▸ keeps.variableDebt).burn hb)
      (fun ha => ha ▸ keeps.stableDebt)
  | burnStableDebt h =>
    obtain ⟨_, hb, rfl⟩ := burnStableDebt_eq_ok h
    exact keeps.setReserve (fun ha => ha ▸ keeps.variableDebt)
      (fun ha => (ha ▸ keeps.stableDebt).burn hb)
  | @convertStableDebt _ _ _ a user _ _ _ read burned minted =>
    have nonzero := mintVariableDebt_amount minted
    obtain ⟨stableDebtToken, hb, rfl⟩ := burnStableDebt_eq_ok burned
    obtain ⟨_, hm, rfl⟩ := mintVariableDebt_eq_ok minted
    have after : (pool.setReserve a { pool.reserves a with stableDebtToken }).KeepsDebt asset
        trusted u owed := keeps.setReserve (fun ha => ha ▸ keeps.variableDebt)
      (fun ha => (ha ▸ keeps.stableDebt).burn hb)
    refine after.setReserve (fun ha => (ha ▸ after.variableDebt).mint nonzero ?_ hm)
      (fun ha => ha ▸ after.stableDebt)
    -- an account without stable debt has nothing to convert
    rintro ⟨rfl, _⟩
    subst ha
    rw [StableDebtToken.balanceOf_zero keeps.stableDebt.principal] at read
    exact nonzero (Except.ok.inj read).symm
  | approveStableDelegation _ msgSender a delegatee amount =>
    refine keeps.setReserve (fun ha => ha ▸ keeps.variableDebt) (fun ha => ?_)
    subst ha
    exact ⟨keeps.stableDebt.principal, approveDelegation_undelegated keeps.stableDebt.undelegated
      (fun hu => fine ⟨rfl, hu.symm⟩)⟩
  | approveVariableDelegation _ msgSender a delegatee amount =>
    refine keeps.setReserve (fun ha => ?_) (fun ha => ha ▸ keeps.stableDebt)
    subst ha
    exact ⟨keeps.variableDebt.scaled, approveDelegation_undelegated
      keeps.variableDebt.undelegated (fun hu => fine ⟨rfl, hu.symm⟩)⟩
  | setUsingAsCollateral h =>
    obtain ⟨_, _, rfl⟩ := setUsingAsCollateral_eq_ok h
    exact ⟨keeps.variableDebt, keeps.stableDebt⟩
  | setBorrowing h =>
    obtain ⟨_, _, rfl⟩ := setBorrowing_eq_ok h
    exact ⟨keeps.variableDebt, keeps.stableDebt⟩
  | pull h =>
    obtain ⟨_, _, rfl⟩ := pullUnderlying_eq_ok h
    exact ⟨keeps.variableDebt, keeps.stableDebt⟩
  | pay h =>
    obtain ⟨_, _, rfl⟩ := transferUnderlyingTo_eq_ok h
    exact ⟨keeps.variableDebt, keeps.stableDebt⟩
  | sendToken _ => exact ⟨keeps.variableDebt, keeps.stableDebt⟩
  | spendToken _ => exact ⟨keeps.variableDebt, keeps.stableDebt⟩
  | approveToken _ => exact ⟨keeps.variableDebt, keeps.stableDebt⟩
  | @listReserve _ _ input h =>
    obtain ⟨_, _, _, hreserves⟩ := listReserve_reserves h
    by_cases ha : asset = input.underlyingAsset
    · subst ha
      constructor
      · exact ⟨by simp [hreserves, freshReserve, VariableDebtToken.empty, IncentivizedERC20.empty],
          fun _ _ => by simp [hreserves, freshReserve, VariableDebtToken.empty]⟩
      · exact ⟨by simp [hreserves, freshReserve, StableDebtToken.empty, IncentivizedERC20.empty],
          fun _ _ => by simp [hreserves, freshReserve, StableDebtToken.empty]⟩
    · exact ⟨by simpa [hreserves, ha] using keeps.variableDebt,
        by simpa [hreserves, ha] using keeps.stableDebt⟩
  | setConfiguration _ a configuration => exact kept rfl rfl
  | setReserveInterestRateStrategy _ a strategy => exact kept rfl rfl
  | setPause _ val => exact ⟨keeps.variableDebt, keeps.stableDebt⟩
  | setPrices _ priceOracle lendingRateOracle => exact ⟨keeps.variableDebt, keeps.stableDebt⟩

theorem Call.indebts_nobody_else {msgSender : Address} {call : Call} {deed : Deed}
    (other : msgSender ≠ u) (untrusted : msgSender ≠ trusted)
    (hdeed : deed ∈ call.deeds pool msgSender) : ¬deed.Indebts asset trusted u := by
  intro indebts
  cases call with
  | _ =>
    simp only [Call.deeds, List.mem_cons, List.not_mem_nil, or_false] at hdeed
    rcases hdeed with rfl | rfl | rfl | rfl | rfl | rfl | rfl | rfl | rfl
    all_goals first
      | exact indebts
      | exact indebts.2.2.elim other untrusted
      | exact other indebts.2

theorem keepsDebt_invariant (asset u : Address) (owed : Nat) :
    RuledInvariant (.without u) fun _ pool => pool.KeepsDebt asset u u owed := by
  refine .of_deeds (fun _ _ _ _ fine did keeps => did.keepsDebt fine keeps) ?_ ?_ ?_
  · intro t pool pool' msgSender call other _ _ deed hdeed
    exact Call.indebts_nobody_else other other hdeed
  · rintro pool msgSender receiver _ _ _ _ ⟨_, rfl⟩
    exact id
  · rintro pool msgSender receiver onBehalfOf other _ _ _ ⟨_, hdeed⟩ indebts
    simp only [List.mem_cons, List.not_mem_nil, or_false] at hdeed
    obtain rfl | rfl | rfl | rfl | rfl := hdeed
    all_goals first | exact indebts | exact indebts.2.2.elim other other

/-- Nobody can put an account into debt that has delegated no credit: as long as it makes no call, it
stays without stable debt and its scaled variable debt does not grow. -/
theorem debt_not_imposed (noStable : (pool.reserves asset).stableDebtToken.principalBalanceOf u = 0)
    (stableCredit : ∀ c, (pool.reserves asset).stableDebtToken.borrowAllowances u c = 0)
    (variableCredit : ∀ c, (pool.reserves asset).variableDebtToken.borrowAllowances u c = 0)
    (after : VisitedAfter (.without u) t pool t' pool') :
    (pool'.reserves asset).stableDebtToken.principalBalanceOf u = 0 ∧
      (pool'.reserves asset).variableDebtToken.scaledBalanceOf u ≤
        (pool.reserves asset).variableDebtToken.scaledBalanceOf u := by
  have before : pool.KeepsDebt asset u u ((pool.reserves asset).variableDebtToken.balances u) :=
    ⟨⟨Nat.le_refl _, fun c _ => variableCredit c⟩, ⟨noStable, fun c _ => stableCredit c⟩⟩
  have kept := (keepsDebt_invariant asset u _).visitedAfter after before
  exact ⟨kept.stableDebt.principal, kept.variableDebt.scaled⟩

/-- Alice owes weth at the variable rate. -/
def indebtedMarket : LendingPool :=
  Market.endState (Market.setup 1000 ++
    [(1, Market.bob, .deposit Market.weth (10 ^ 20) Market.bob),
      (2, Market.alice, .deposit Market.dai (10 ^ 20) Market.alice),
      (3, Market.alice, .borrow Market.weth (4 * 10 ^ 19) 2 Market.alice)])

/-- Carol repays a part of it. -/
theorem indebtedMarket_debt_not_imposed :
    ∃ pool', VisitedAfter (.without Market.alice) 3 indebtedMarket 2592003 pool' ∧
      (pool'.reserves Market.weth).stableDebtToken.principalBalanceOf Market.alice = 0 ∧
      (pool'.reserves Market.weth).variableDebtToken.scaledBalanceOf Market.alice ≤
        (indebtedMarket.reserves Market.weth).variableDebtToken.scaledBalanceOf Market.alice := by
  have repaid : (indebtedMarket.repay 2592003 Market.carol Market.weth (10 ^ 19) 2
      Market.alice).isOk = true := by decide +kernel
  obtain ⟨result, hrepay⟩ := exists_of_isOk repaid
  have hcall : (Call.repay Market.weth (10 ^ 19) 2 Market.alice).exec 2592003 Market.carol
      indebtedMarket = .ok result.2 := map_eq_ok.mpr ⟨result, hrepay, rfl⟩
  have run : Steps (.without Market.alice) 2592003 indebtedMarket result.2 :=
    .call (.refl _) Market.carol _ (show Market.carol ≠ Market.alice by decide) hcall
  have after : VisitedAfter (.without Market.alice) 3 indebtedMarket 2592003 result.2 :=
    ⟨3, indebtedMarket, .now, by decide, by decide, .between run⟩
  exact ⟨result.2, after, debt_not_imposed (by decide +kernel) (fun _ => by rfl) (fun _ => by rfl)
    after⟩

end ElectroLend
