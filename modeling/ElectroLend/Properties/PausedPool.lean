import ElectroLend.Properties.Wallets

namespace ElectroLend

open Outcome LendingPool

/-- Nobody lifts the pause, and the elToken of the asset makes no call to tokens of its own. -/
def Rules.whilePaused (asset : Address) : Rules where
  call pool msgSender call :=
    (∀ val, call ≠ .setPause val) ∧ msgSender ≠ (pool.reserves asset).elTokenAddress
  flashLoan _ _ _ := True

/-- The reserve without its allowances, its configuration and its strategy. -/
def Reserve.ledger (r : Reserve) : Reserve :=
  { r with
    configuration := ⟨0⟩
    interestRateStrategy := Reserve.unlisted.interestRateStrategy
    elToken := { r.elToken with allowances := fun _ _ => 0 }
    stableDebtToken := { r.stableDebtToken with borrowAllowances := fun _ _ => 0 }
    variableDebtToken := { r.variableDebtToken with borrowAllowances := fun _ _ => 0 } }

variable {pool pool' : LendingPool} {t t' amount : Nat} {asset msgSender : Address}

/-- What calls may still do when the pool is paused. -/
def Deed.InPause (elToken : Address) : Deed → Prop
  | approveELToken _ _ _ | approveDelegation _ _ _ | list _ _ | configure _ | setStrategy _
  | setPrices => True
  | sendToken _ sender => sender ≠ elToken
  | spendToken _ spender _ => spender ≠ elToken
  | approveToken _ owner => owner ≠ elToken
  | _ => False

/-- Every function of the pool that moves elTokens, debt or bits begins with the check of the pause,
and the elToken asks the pool before it lets a transfer pass. -/
theorem Call.exec_paused {call : Call} (paused : pool.paused = true)
    (h : call.exec t msgSender pool = .ok pool') (running : ∀ val, call ≠ .setPause val)
    {elToken : Address} (other : msgSender ≠ elToken) {deed : Deed}
    (hdeed : deed ∈ call.deeds pool msgSender) : deed.InPause elToken := by
  have stopped : ∀ {α : Type} {f : Unit → Result α} {a : α}, (pool.whenNotPaused >>= f) = .ok a →
      False := by
    intro α f a hrun
    simp [whenNotPaused, paused, require] at hrun
  have checked : ∀ {sender recipient a : Address} {amount : Nat} {after : LendingPool},
      pool.transferELToken t a sender recipient amount true = .ok after → False := by
    intro sender recipient a amount after htransfer
    obtain ⟨_, _, _, _, _, _, _, _, _, _, _, rfl, ⟨_, hfin⟩ | ⟨hvalidate, _⟩⟩ :=
      transferELToken_eq_ok htransfer
    · simp [finalizeTransfer, whenNotPaused, paused, require] at hfin
    · cases hvalidate
  cases call with
  | deposit asset amount onBehalfOf => exact (stopped h).elim
  | withdraw asset amount recipient =>
    obtain ⟨_, hw, _⟩ := map_eq_ok.mp h
    exact (stopped hw).elim
  | borrow asset amount interestRateMode onBehalfOf => exact (stopped h).elim
  | repay asset amount rateMode onBehalfOf =>
    obtain ⟨_, hr, _⟩ := map_eq_ok.mp h
    exact (stopped hr).elim
  | swapBorrowRateMode asset rateMode => exact (stopped h).elim
  | rebalanceStableBorrowRate asset user => exact (stopped h).elim
  | setUserUseReserveAsCollateral asset useAsCollateral => exact (stopped h).elim
  | liquidationCall collateralAsset debtAsset user debtToCover receiveLToken =>
    exact (stopped h).elim
  | elTokenTransfer asset recipient amount =>
    obtain ⟨_, _, htransfer⟩ := bind_eq_ok.mp h
    exact (checked htransfer).elim
  | elTokenTransferFrom asset sender recipient amount =>
    obtain ⟨_, _, _, htransfer, _⟩ := elTokenTransferFrom_eq_ok h
    exact (checked htransfer).elim
  | setPause val => exact (running val rfl).elim
  | approve asset spender amount =>
    obtain rfl := List.mem_singleton.mp hdeed
    exact other
  | transfer asset recipient amount =>
    obtain rfl := List.mem_singleton.mp hdeed
    exact other
  | transferFrom asset sender recipient amount =>
    obtain rfl := List.mem_singleton.mp hdeed
    exact other
  | _ =>
    obtain rfl := List.mem_singleton.mp hdeed
    trivial

/-- The pool is paused; of one reserve and of the bits nothing has changed that counts, and the elToken
has what it had. -/
structure LendingPool.StandsStill (start pool : LendingPool) (asset : Address) : Prop where
  paused : pool.paused = true
  ledger : (pool.reserves asset).ledger = (start.reserves asset).ledger
  usersConfig : pool.usersConfig = start.usersConfig
  cash : (pool.tokens asset).Keeps (start.reserves asset).elTokenAddress
    (start.reserves asset).elTokenAddress (start.underlyingBalance asset)

namespace LendingPool.StandsStill

variable {start : LendingPool}

theorem setReserve (stands : start.StandsStill pool asset) {a : Address} {r : Reserve}
    (same : r.ledger = (pool.reserves a).ledger) :
    start.StandsStill (pool.setReserve a r) asset where
  paused := stands.paused
  ledger := by
    by_cases ha : asset = a
    · subst ha
      simpa [same] using stands.ledger
    · simpa [ha] using stands.ledger
  usersConfig := stands.usersConfig
  cash := stands.cash

theorem setToken (stands : start.StandsStill pool asset) {a : Address} {token : ERC20}
    (stored : asset = a → token.Keeps (start.reserves asset).elTokenAddress
      (start.reserves asset).elTokenAddress (start.underlyingBalance asset)) :
    start.StandsStill (pool.setToken a token) asset where
  paused := stands.paused
  ledger := stands.ledger
  usersConfig := stands.usersConfig
  cash := by
    by_cases ha : asset = a
    · subst ha
      simpa using stored rfl
    · simpa [ha] using stands.cash

theorem elTokenAddress (stands : start.StandsStill pool asset) :
    (pool.reserves asset).elTokenAddress = (start.reserves asset).elTokenAddress :=
  congrArg (·.elTokenAddress) stands.ledger

end LendingPool.StandsStill

theorem Did.standsStill {start : LendingPool} {deed : Deed} (h : Did t deed pool pool')
    (initialised : (start.reserves asset).elTokenAddress ≠ 0)
    (fine : deed.InPause (start.reserves asset).elTokenAddress)
    (stands : start.StandsStill pool asset) : start.StandsStill pool' asset := by
  cases h with
  | approveELToken h =>
    obtain rfl := ELToken.approve_eq_ok h
    exact stands.setReserve rfl
  | approveStableDelegation _ msgSender a delegatee amount => exact stands.setReserve rfl
  | approveVariableDelegation _ msgSender a delegatee amount => exact stands.setReserve rfl
  | sendToken h =>
    refine stands.setToken (fun ha => ?_)
    subst ha
    exact stands.cash.transfer (Ne.symm fine) h
  | spendToken h =>
    refine stands.setToken (fun ha => ?_)
    subst ha
    exact stands.cash.transferFrom (fun _ => fine) h
  | approveToken h =>
    refine stands.setToken (fun ha => ?_)
    subst ha
    exact stands.cash.approve (fun hu _ => (fine hu).elim) h
  | @listReserve _ _ input h =>
    obtain ⟨new, _, _, hreserves⟩ := listReserve_reserves h
    obtain ⟨_, tokens, paused, usersConfig⟩ := listReserve_rest h
    have ha : asset ≠ input.underlyingAsset := by
      rintro rfl
      exact initialised (stands.elTokenAddress ▸ new)
    refine ⟨paused.trans stands.paused, ?_, usersConfig.trans stands.usersConfig, ?_⟩
    · simpa [hreserves, ha] using stands.ledger
    · rw [tokens]
      exact stands.cash
  | setConfiguration _ a configuration => exact stands.setReserve rfl
  | setReserveInterestRateStrategy _ a strategy => exact stands.setReserve rfl
  | setPrices _ priceOracle lendingRateOracle =>
    exact ⟨stands.paused, stands.ledger, stands.usersConfig, stands.cash⟩
  | _ => exact fine.elim

theorem standsStill_invariant {start : LendingPool}
    (initialised : (start.reserves asset).elTokenAddress ≠ 0) :
    RuledInvariant (.whilePaused asset) fun _ pool => start.StandsStill pool asset := by
  refine .of_deeds (fun _ _ _ _ fine did stands => did.standsStill initialised fine stands) ?_ ?_ ?_
  · intro t pool pool' msgSender call allowed success stands deed hdeed
    obtain ⟨running, other⟩ := allowed
    rw [stands.elTokenAddress] at other
    exact Call.exec_paused stands.paused success running other hdeed
  · intro pool msgSender receiver _ unpaused stands
    rw [stands.paused] at unpaused
    cases unpaused
  · intro pool msgSender receiver onBehalfOf _ unpaused stands
    rw [stands.paused] at unpaused
    cases unpaused

/-- From a paused pool, as long as nobody lifts the pause: every balance, debt, index, rate and
timestamp of an initialised reserve stays what it is, and so do the bits of all accounts; the reserve
may be given underlying, but none leaves it. -/
theorem paused_pool_stands (paused : pool.paused = true)
    (initialised : (pool.reserves asset).elTokenAddress ≠ 0)
    (unapproved : ∀ spender,
      (pool.tokens asset).allowances (pool.reserves asset).elTokenAddress spender = 0)
    (after : VisitedAfter (.whilePaused asset) t pool t' pool') :
    (pool'.reserves asset).ledger = (pool.reserves asset).ledger ∧
      pool'.usersConfig = pool.usersConfig ∧
      pool.underlyingBalance asset ≤ pool'.underlyingBalance asset := by
  have before : pool.StandsStill pool asset :=
    ⟨paused, rfl, rfl, ⟨Nat.le_refl _, fun spender _ => unapproved spender⟩⟩
  have stands := (standsStill_invariant initialised).visitedAfter after before
  have cash : pool'.underlyingBalance asset =
      (pool'.tokens asset).balanceOf (pool.reserves asset).elTokenAddress := by
    rw [underlyingBalance, stands.elTokenAddress]
  refine ⟨stands.ledger, stands.usersConfig, ?_⟩
  rw [cash]
  exact stands.cash.balance

/-- Alice has deposited weth and bob has borrowed from it when the pool is paused. -/
def pausedMarket : LendingPool :=
  Market.endState (Market.setup 1000 ++
    [(1, Market.alice, .deposit Market.weth (10 ^ 20) Market.alice),
      (2, Market.bob, .deposit Market.dai (10 ^ 20) Market.bob),
      (2, Market.bob, .borrow Market.weth (5 * 10 ^ 19) 2 Market.bob),
      (3, Market.poolAddress, .setPause true)])

/-- A month later bob hands weth to the elToken. -/
theorem pausedMarket_paused_pool_stands :
    ∃ pool', VisitedAfter (.whilePaused Market.weth) 3 pausedMarket 2592003 pool' ∧
      (pool'.reserves Market.weth).ledger = (pausedMarket.reserves Market.weth).ledger ∧
      pool'.usersConfig = pausedMarket.usersConfig ∧
      pausedMarket.underlyingBalance Market.weth ≤ pool'.underlyingBalance Market.weth := by
  have given : ((Call.transfer Market.weth 110 (10 ^ 20)).exec 2592003 Market.bob
      pausedMarket).isOk = true := by decide +kernel
  obtain ⟨pool', hcall⟩ := exists_of_isOk given
  have run : Steps (.whilePaused Market.weth) 2592003 pausedMarket pool' := by
    refine .call (.refl _) Market.bob (.transfer Market.weth 110 (10 ^ 20)) ?_ hcall
    refine ⟨?_, by decide +kernel⟩
    rintro val ⟨⟩
  have after : VisitedAfter (.whilePaused Market.weth) 3 pausedMarket 2592003 pool' :=
    ⟨3, pausedMarket, .now, by decide, by decide, .between run⟩
  have unapproved : ∀ spender, (pausedMarket.tokens Market.weth).allowances
      (pausedMarket.reserves Market.weth).elTokenAddress spender = 0 := by
    intro spender
    have helToken : (pausedMarket.reserves Market.weth).elTokenAddress = 110 := by decide +kernel
    rw [helToken]
    show (if (110 : Address) < 100 ∧ spender = Market.poolAddress then uint256Max else 0) = 0
    exact if_neg (fun h => absurd h.1 (by decide))
  exact ⟨pool', after, paused_pool_stands (by decide +kernel) (by decide +kernel) unapproved after⟩

end ElectroLend
