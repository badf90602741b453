import ElectroLend.Pool.RuledRuns
import ElectroLend.Properties.IndexGrowth

namespace ElectroLend

open Outcome LendingPool

/-- Everybody else may do whatever the pool lets him do. -/
def Rules.without (u : Address) : Rules where
  call _ msgSender _ := msgSender ≠ u
  flashLoan _ msgSender _ := msgSender ≠ u

/-- The same, but nobody liquidates the account. -/
def Rules.sparing (u : Address) : Rules where
  call _ msgSender call := msgSender ≠ u ∧
    ∀ collateralAsset debtAsset debtToCover receiveLToken,
      call ≠ .liquidationCall collateralAsset debtAsset u debtToCover receiveLToken
  flashLoan _ msgSender _ := msgSender ≠ u

/-- The health factor of the account is below one. -/
def LendingPool.Liquidatable (pool : LendingPool) (t : Nat) (u : Address) : Prop :=
  ∃ account, pool.calculateUserAccountData t u (pool.usersConfig u) = .ok account ∧
    account.healthFactor < HEALTH_FACTOR_LIQUIDATION_THRESHOLD

/-- Everybody else may do at `t` whatever the pool lets him do, but for liquidating the account while
it is liquidatable. -/
def Rules.notLiquidating (u : Address) (t : Nat) : Rules where
  call pool msgSender call := msgSender ≠ u ∧
    ∀ collateralAsset debtAsset debtToCover receiveLToken,
      call = .liquidationCall collateralAsset debtAsset u debtToCover receiveLToken →
        ¬pool.Liquidatable t u
  flashLoan _ msgSender _ := msgSender ≠ u

variable {pool pool' : LendingPool} {t t' amount : Nat} {asset trusted u : Address}

theorem LendingPool.liquidationCall_liquidatable
    {msgSender collateralAsset debtAsset : Address} {receiveLToken : Bool}
    (h : pool.liquidationCall t msgSender collateralAsset debtAsset u amount receiveLToken =
      .ok pool') : pool.Liquidatable t u := by
  simp only [liquidationCall, liquidatePosition, validateLiquidationCall, bind_eq_ok,
    mapError_eq_ok, require_eq_ok, Prod.exists] at h
  obtain ⟨_, _, account, haccount, _, _, _, _, ⟨_, _, _, hbelow, _⟩, _⟩ := h
  exact ⟨account, haccount, hbelow⟩

theorem sparing_allows (u : Address) : (Rules.sparing u).Allow (.notLiquidating u) where
  call t pool pool' msgSender call := by
    rintro ⟨other, healthy⟩ success
    refine ⟨other, fun collateralAsset debtAsset debtToCover receiveLToken hcall => ?_⟩
    subst hcall
    exact healthy _ _ _ _ rfl (liquidationCall_liquidatable success)
  flashLoan _ _ _ _ other := other

/-- The deed takes elTokens of the asset from the account, or lets others take them; `trusted` is a
spender that it has approved. -/
def Deed.Takes (asset trusted u : Address) : Deed → Prop
  | burnELToken a user => a = asset ∧ user = u
  | moveELToken a sender _ => a = asset ∧ sender = u
  | spendELToken a spender sender _ => a = asset ∧ spender = trusted ∧ sender = u
  | approveELToken a owner _ => a = asset ∧ owner = u
  | _ => False

theorem moveBalance_le {b b' : Address → Nat} {x y : Address} {a : Nat}
    (h : moveBalance b x y a = .ok b') (hu : u ≠ x) : b u ≤ b' u := by
  by_cases hy : u = y
  · subst hy
    rw [moveBalance_recipient (Ne.symm hu) h]
    exact Nat.le_add_right _ _
  · exact (moveBalance_other hu hy h).ge

theorem moveBalance_zero {b b' : Address → Nat} {x y : Address}
    (h : moveBalance b x y 0 = .ok b') : b' = b := by
  by_cases hxy : x = y
  · subst hxy
    exact (moveBalance_self h).2
  · obtain ⟨_, rfl⟩ := (moveBalance_eq_ok hxy).mp h
    simp

/-- The elToken still has `held` scaled units for the account, and nobody else than `trusted` may take
them. -/
structure ELToken.Keeps (token : ELToken) (trusted u : Address) (held : Nat) : Prop where
  balance : held ≤ token.balances u
  allowances : ∀ spender, spender ≠ trusted → token.allowances u spender = 0

namespace ELToken.Keeps

variable {token : ELToken} {held : Nat}

theorem credit (keeps : token.Keeps trusted u held) (minted : Nat) :
    (token.creditTreasury minted).Keeps trusted u held where
  balance := by
    by_cases hu : u = token.treasury
    · subst hu
      have credited : (token.creditTreasury minted).balances token.treasury =
          token.balances token.treasury + minted := by simp [ELToken.creditTreasury]
      rw [credited]
      exact keeps.balance.trans (Nat.le_add_right _ _)
    · rw [ELToken.creditTreasury_other token minted hu]
      exact keeps.balance
  allowances := keeps.allowances

theorem mint (keeps : token.Keeps trusted u held) {token' : ELToken} {user : Address} {index : Nat}
    {first : Bool} (h : token.mint user amount index = .ok (first, token')) :
    token'.Keeps trusted u held := by
  obtain ⟨scaled, _, _, hbalances, _, _, _, hallowances⟩ := ELToken.mint_eq_ok h
  refine ⟨?_, by rw [hallowances]; exact keeps.allowances⟩
  rw [hbalances]
  by_cases hu : u = user
  · subst hu
    rw [Function.update_self]
    exact keeps.balance.trans (Nat.le_add_right _ _)
  · rw [Function.update_of_ne hu]
    exact keeps.balance

theorem burn (keeps : token.Keeps trusted u held) {token' : ELToken} {underlying underlying' : ERC20}
    {this user receiver : Address} {index : Nat} (hu : u ≠ user)
    (h : token.burn underlying this user receiver amount index = .ok (token', underlying')) :
    token'.Keeps trusted u held := by
  obtain ⟨scaled, _, _, _, hbalances, _, _, _, hallowances, _⟩ := ELToken.burn_eq_ok h
  refine ⟨?_, by rw [hallowances]; exact keeps.allowances⟩
  rw [hbalances, Function.update_of_ne hu]
  exact keeps.balance

theorem move (keeps : token.Keeps trusted u held) {sender recipient : Address} {balances : Address → Nat}
    (hu : u ≠ sender) (h : moveBalance token.balances sender recipient amount = .ok balances) :
    ELToken.Keeps { token with balances } trusted u held :=
  ⟨keeps.balance.trans (moveBalance_le h hu), keeps.allowances⟩

theorem spend (keeps : token.Keeps trusted u held) {spender sender recipient : Address}
    {index amountScaled : Nat} {balances : Address → Nat} (other : u = sender → spender ≠ trusted)
    (allowed : amount ≤ token.allowances sender spender)
    (scaled : rayDiv amount index = .ok amountScaled)
    (h : moveBalance token.balances sender recipient amountScaled = .ok balances) :
    ELToken.Keeps { token with balances } trusted u held := by
  by_cases hu : u = sender
  · subst hu
    rw [keeps.allowances spender (other rfl)] at allowed
    obtain rfl := Nat.le_zero.mp allowed
    obtain ⟨_, rfl⟩ := rayDiv_eq_ok.mp scaled
    rw [Nat.zero_mul, HalfUp.zero_left] at h
    obtain rfl := moveBalance_zero h
    exact ⟨keeps.balance, keeps.allowances⟩
  · exact keeps.move hu h

theorem approve (keeps : token.Keeps trusted u held) {token' : ELToken} {owner spender : Address}
    (small : owner = u → spender ≠ trusted → amount = 0)
    (h : token.approve owner spender amount = .ok token') : token'.Keeps trusted u held := by
  obtain rfl := ELToken.approve_eq_ok h
  refine ⟨keeps.balance, ?_⟩
  intro c hne
  by_cases hu : u = owner
  · subst hu
    by_cases hc : c = spender
    · subst hc
      simpa using small rfl hne
    · simpa [hc] using keeps.allowances c hne
  · simpa [hu] using keeps.allowances c hne

end ELToken.Keeps

/-- The reserve is initialised, and its elToken keeps what the account holds. -/
structure LendingPool.KeepsHolding (pool : LendingPool) (asset trusted u : Address) (held : Nat) :
    Prop where
  initialised : (pool.reserves asset).elTokenAddress ≠ 0
  token : (pool.reserves asset).elToken.Keeps trusted u held

variable {held : Nat}

theorem LendingPool.KeepsHolding.setReserve (keeps : pool.KeepsHolding asset trusted u held) {a : Address}
    {r : Reserve} (address : r.elTokenAddress = (pool.reserves a).elTokenAddress)
    (token : asset = a → r.elToken.Keeps trusted u held) :
    (pool.setReserve a r).KeepsHolding asset trusted u held := by
  by_cases ha : asset = a
  · subst ha
    refine ⟨?_, ?_⟩
    · simpa [address] using keeps.initialised
    · simpa using token rfl
  · exact ⟨by simpa [ha] using keeps.initialised, by simpa [ha] using keeps.token⟩

/-- Every deed that does not take from the account leaves it what it holds. -/
theorem Did.keepsHolding {deed : Deed} (h : Did t deed pool pool') (spares : ¬deed.Takes asset trusted u)
    (keeps : pool.KeepsHolding asset trusted u held) : pool'.KeepsHolding asset trusted u held := by
  cases h with
  | updateState h =>
    obtain ⟨r, hr, rfl⟩ := updateState_eq_ok h
    obtain ⟨_, _, minted, _, _, _, rfl, _⟩ := Reserve.updateState_eq_ok hr
    exact keeps.setReserve rfl (fun ha => (ha ▸ keeps.token).credit minted)
  | updateInterestRates h =>
    obtain ⟨r, hr, rfl⟩ := updateInterestRates_eq_ok h
    obtain ⟨_, _, rfl⟩ := Reserve.updateInterestRates_eq_ok hr
    exact keeps.setReserve rfl (fun ha => ha ▸ keeps.token)
  | cumulateToLiquidityIndex h =>
    obtain ⟨_, _, rfl⟩ := cumulateToLiquidityIndex_eq_ok h
    exact keeps.setReserve rfl (fun ha => ha ▸ keeps.token)
  | mintELToken h =>
    obtain ⟨token, hm, rfl⟩ := mintELToken_eq_ok h
    exact keeps.setReserve rfl (fun ha => (ha ▸ keeps.token).mint hm)
  | @burnELToken _ _ a _ _ _ h =>
    obtain ⟨elToken, _, hb, rfl⟩ := burnELToken_eq_ok h
    have burned :
        (pool.setReserve a { pool.reserves a with elToken }).KeepsHolding asset trusted u held :=
      keeps.setReserve rfl
        (fun ha => (ha ▸ keeps.token).burn (fun hu => spares ⟨ha.symm, hu.symm⟩) hb)
    exact ⟨burned.initialised, burned.token⟩
  | moveELToken h =>
    exact keeps.setReserve rfl
      (fun ha => (ha ▸ keeps.token).move (fun hu => spares ⟨ha.symm, hu.symm⟩) h)
  | spendELToken allowed scaled h =>
    exact keeps.setReserve rfl (fun ha => (ha ▸ keeps.token).spend
      (fun hu hs => spares ⟨ha.symm, hs, hu.symm⟩) allowed scaled h)
  | approveELToken h =>
    exact keeps.setReserve rfl
      (fun ha => (ha ▸ keeps.token).approve (fun hu _ => (spares ⟨ha.symm, hu⟩).elim) h)
  | lowerELTokenAllowance lower h =>
    refine keeps.setReserve rfl (fun ha => ?_)
    subst ha
    refine keeps.token.approve (fun hu hne => ?_) h
    subst hu
    rw [keeps.token.allowances _ hne] at lower
    exact Nat.le_zero.mp lower
  | mintVariableDebt h =>
    obtain ⟨_, _, rfl⟩ := mintVariableDebt_eq_ok h
    exact keeps.setReserve rfl (fun ha => ha ▸ keeps.token)
  | mintStableDebt _ h =>
    obtain ⟨_, _, rfl⟩ := mintStableDebt_eq_ok h
    exact keeps.setReserve rfl (fun ha => ha ▸ keeps.token)
  | burnVariableDebt h =>
    obtain ⟨_, _, rfl⟩ := burnVariableDebt_eq_ok h
    exact keeps.setReserve rfl (fun ha => ha ▸ keeps.token)
  | burnStableDebt h =>
    obtain ⟨_, _, rfl⟩ := burnStableDebt_eq_ok h
    exact keeps.setReserve rfl (fun ha => ha ▸ keeps.token)
  | @convertStableDebt _ _ _ a _ _ _ _ _ burned minted =>
    obtain ⟨stableDebtToken, _, rfl⟩ := burnStableDebt_eq_ok burned
    obtain ⟨_, _, rfl⟩ := mintVariableDebt_eq_ok minted
    have kept : (pool.setReserve a { pool.reserves a with stableDebtToken }).KeepsHolding asset
        trusted u held := keeps.setReserve rfl (fun ha => ha ▸ keeps.token)
    exact kept.setReserve rfl (fun ha => ha ▸ kept.token)
  | approveStableDelegation _ msgSender a delegatee amount =>
    exact keeps.setReserve rfl (fun ha => ha ▸ keeps.token)
  | approveVariableDelegation _ msgSender a delegatee amount =>
    exact keeps.setReserve rfl (fun ha => ha ▸ keeps.token)
  | setUsingAsCollateral h =>
    obtain ⟨_, _, rfl⟩ := setUsingAsCollateral_eq_ok h
    exact ⟨keeps.initialised, keeps.token⟩
  | setBorrowing h =>
    obtain ⟨_, _, rfl⟩ := setBorrowing_eq_ok h
    exact ⟨keeps.initialised, keeps.token⟩
  | pull h =>
    obtain ⟨_, _, rfl⟩ := pullUnderlying_eq_ok h
    exact ⟨keeps.initialised, keeps.token⟩
  | pay h =>
    obtain ⟨_, _, rfl⟩ := transferUnderlyingTo_eq_ok h
    exact ⟨keeps.initialised, keeps.token⟩
  | sendToken _ => exact ⟨keeps.initialised, keeps.token⟩
  | spendToken _ => exact ⟨keeps.initialised, keeps.token⟩
  | approveToken _ => exact ⟨keeps.initialised, keeps.token⟩
  | @listReserve _ _ input h =>
    obtain ⟨new, _, _, hreserves⟩ := listReserve_reserves h
    have ha : asset ≠ input.underlyingAsset := fun ha => keeps.initialised (ha ▸ new)
    exact ⟨by simpa [hreserves, ha] using keeps.initialised,
      by simpa [hreserves, ha] using keeps.token⟩
  | setConfiguration _ a configuration => exact keeps.setReserve rfl (fun ha => ha ▸ keeps.token)
  | setReserveInterestRateStrategy _ a strategy =>
    exact keeps.setReserve rfl (fun ha => ha ▸ keeps.token)
  | setPause _ val => exact ⟨keeps.initialised, keeps.token⟩
  | setPrices _ priceOracle lendingRateOracle => exact ⟨keeps.initialised, keeps.token⟩

/-- A call of somebody else takes from the account by liquidating it, or not at all. -/
theorem Call.spares {msgSender : Address} {call : Call} {deed : Deed} (other : msgSender ≠ u)
    (untrusted : msgSender ≠ trusted)
    (spares : ∀ collateralAsset debtAsset debtToCover receiveLToken,
      call ≠ .liquidationCall collateralAsset debtAsset u debtToCover receiveLToken)
    (hdeed : deed ∈ call.deeds pool msgSender) : ¬deed.Takes asset trusted u := by
  intro takes
  cases call with
  | liquidationCall collateralAsset debtAsset user debtToCover receiveLToken =>
    have hu : user ≠ u := fun hu => spares _ _ _ _ (by rw [hu])
    simp only [Call.deeds, List.mem_cons, List.not_mem_nil, or_false] at hdeed
    obtain rfl | rfl | rfl | rfl | rfl | rfl | rfl | rfl | rfl := hdeed
    all_goals first | exact takes | exact hu takes.2
  | _ =>
    simp only [Call.deeds, List.mem_cons, List.not_mem_nil, or_false] at hdeed
    rcases hdeed with rfl | rfl | rfl | rfl | rfl | rfl
    all_goals first | exact takes | exact other takes.2 | exact untrusted takes.2.1

theorem keepsHolding_invariant (asset u : Address) (held : Nat) :
    RuledInvariant (.sparing u) fun _ pool => pool.KeepsHolding asset u u held := by
  refine .of_deeds (fun _ _ _ _ spares did keeps => did.keepsHolding spares keeps) ?_ ?_ ?_
  · intro t pool pool' msgSender call allowed _ _ deed hdeed
    exact Call.spares allowed.1 allowed.1 allowed.2 hdeed
  · rintro pool msgSender receiver _ _ _ _ ⟨_, rfl⟩
    exact id
  · rintro pool msgSender receiver onBehalfOf _ _ _ _ ⟨_, hdeed⟩
    simp only [List.mem_cons, List.not_mem_nil, or_false] at hdeed
    obtain rfl | rfl | rfl | rfl | rfl := hdeed
    all_goals exact id

theorem depositorsClaim_mono {r r' : Reserve} (ht : IsBlockTimestamp t) (ht' : IsBlockTimestamp t')
    (grown : r.Grows t t' r') (hle : r.elToken.scaledBalanceOf u ≤ r'.elToken.scaledBalanceOf u)
    {claim claim' : Nat} (hclaim : r.depositorsClaim t u = .ok claim)
    (hclaim' : r'.depositorsClaim t' u = .ok claim') : claim ≤ claim' := by
  simp only [Reserve.depositorsClaim, bind_eq_ok] at hclaim hclaim'
  obtain ⟨i, hi, hm⟩ := hclaim
  obtain ⟨i', hi', hm'⟩ := hclaim'
  have income := (grown.neverFalls ht ht').income i i' hi hi'
  obtain ⟨_, rfl⟩ := rayMul_eq_ok.mp hm
  obtain ⟨_, rfl⟩ := rayMul_eq_ok.mp hm'
  exact HalfUp.mono (Nat.mul_le_mul hle income)

/-- Whatever the others do, an account that makes no call and has approved nobody keeps its elTokens
and what they are worth, unless it is liquidated while its health factor is below one. -/
theorem holdings_kept (ht : IsBlockTimestamp t)
    (initialised : (pool.reserves asset).elTokenAddress ≠ 0)
    (unapproved : ∀ spender, (pool.reserves asset).elToken.allowances u spender = 0)
    (after : VisitedUnder (.notLiquidating u) t pool t' pool') :
    (pool.reserves asset).elToken.scaledBalanceOf u ≤
        (pool'.reserves asset).elToken.scaledBalanceOf u ∧
      ∀ claim claim', (pool.reserves asset).depositorsClaim t u = .ok claim →
        (pool'.reserves asset).depositorsClaim t' u = .ok claim' → claim ≤ claim' := by
  have spared : VisitedAfter (.sparing u) t pool t' pool' := (sparing_allows u).visitedAfter after
  have kept := (keepsHolding_invariant asset u ((pool.reserves asset).elToken.balances u))
    |>.visitedAfter spared ⟨initialised, Nat.le_refl _, fun spender _ => unapproved spender⟩
  have hle : (pool.reserves asset).elToken.scaledBalanceOf u ≤
      (pool'.reserves asset).elToken.scaledBalanceOf u := kept.token.balance
  have ht' : IsBlockTimestamp t' := by
    obtain ⟨_, _, _, _, ht', _⟩ := after
    exact ht'
  have grown := (grows_invariant t (pool.reserves asset) asset).visitedAfter spared
    (.refl t initialised)
  exact ⟨hle, fun claim claim' => depositorsClaim_mono ht ht' grown hle⟩

/-- Alice has deposited weth, and bob dai. -/
def passiveMarket : LendingPool :=
  Market.endState (Market.setup 1000 ++
    [(1, Market.alice, .deposit Market.weth (10 ^ 20) Market.alice),
      (2, Market.bob, .deposit Market.dai (10 ^ 20) Market.bob)])

/-- Bob borrows from the weth that alice has deposited. -/
theorem passiveMarket_holdings_kept :
    ∃ pool', VisitedUnder (.notLiquidating Market.alice) 2 passiveMarket 2592003 pool' ∧
      (passiveMarket.reserves Market.weth).elToken.scaledBalanceOf Market.alice ≤
          (pool'.reserves Market.weth).elToken.scaledBalanceOf Market.alice ∧
        ∀ claim claim', (passiveMarket.reserves Market.weth).depositorsClaim 2 Market.alice =
            .ok claim →
          (pool'.reserves Market.weth).depositorsClaim 2592003 Market.alice = .ok claim' →
          claim ≤ claim' := by
  have borrowed : (passiveMarket.borrow 2592003 Market.bob Market.weth (5 * 10 ^ 19) 2
      Market.bob).isOk = true := by decide +kernel
  obtain ⟨pool', hcall⟩ := exists_of_isOk borrowed
  have run : Steps (.notLiquidating Market.alice 2592003) 2592003 passiveMarket pool' := by
    refine .call (.refl _) Market.bob (.borrow Market.weth (5 * 10 ^ 19) 2 Market.bob) ?_ hcall
    exact ⟨by decide, fun _ _ _ _ hborrow => by cases hborrow⟩
  have after : VisitedUnder (.notLiquidating Market.alice) 2 passiveMarket 2592003 pool' :=
    ⟨2, passiveMarket, .now, by decide, by decide, .between run⟩
  have unapproved : ∀ spender, (passiveMarket.reserves Market.weth).elToken.allowances Market.alice
      spender = 0 := fun _ => by rfl
  exact ⟨pool', after, holdings_kept (by decide) (by decide +kernel) unapproved after⟩

end ElectroLend
