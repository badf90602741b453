import ElectroLend.Governance.Protocol
import ElectroLend.Pool.Scripts

namespace ElectroLend

open Outcome LendingPool

/-- The part of a reserve that only the configurator writes. -/
structure Reserve.Terms where
  configuration : ReserveConfigurationMap
  interestRateStrategy : DefaultReserveInterestRateStrategy
  id : Nat
  elTokenAddress : Address
  stableDebtTokenAddress : Address
  variableDebtTokenAddress : Address

def Reserve.terms (r : Reserve) : Reserve.Terms :=
  ⟨r.configuration, r.interestRateStrategy, r.id, r.elTokenAddress, r.stableDebtTokenAddress,
    r.variableDebtTokenAddress⟩

namespace LendingPool

/-- The same reserves are listed, on the same terms. -/
structure SameTerms (start pool : LendingPool) : Prop where
  reserves : ∀ asset, (pool.reserves asset).terms = (start.reserves asset).terms
  list : pool.reservesList = start.reservesList
  count : pool.reservesCount = start.reservesCount
  limits : (pool.maxStableRateBorrowSizePercent, pool.flashLoanPremiumTotal,
    pool.maxNumberOfReserves) = (start.maxStableRateBorrowSizePercent, start.flashLoanPremiumTotal,
      start.maxNumberOfReserves)

variable {start pool pool' : LendingPool} {t : Nat}

theorem SameTerms.setReserve (same : start.SameTerms pool) {a : Address} {r : Reserve}
    (terms : r.terms = (pool.reserves a).terms) : start.SameTerms (pool.setReserve a r) where
  reserves := by
    intro asset
    by_cases ha : asset = a
    · subst ha
      simpa [terms] using same.reserves asset
    · simpa [ha] using same.reserves asset
  list := same.list
  count := same.count
  limits := same.limits

theorem SameTerms.setToken (same : start.SameTerms pool) {a : Address} {token : ERC20} :
    start.SameTerms (pool.setToken a token) :=
  ⟨same.reserves, same.list, same.count, same.limits⟩

end LendingPool

/-- The deed needs no pool admin. -/
def Deed.Unprivileged : Deed → Prop
  | .list _ _ | .configure _ | .setStrategy _ => False
  | _ => True

variable {start pool pool' : LendingPool} {t : Nat}

theorem Did.sameTerms {deed : Deed} (h : Did t deed pool pool') (fine : deed.Unprivileged)
    (same : start.SameTerms pool) : start.SameTerms pool' := by
  cases h with
  | updateState h =>
    obtain ⟨_, hr, rfl⟩ := updateState_eq_ok h
    obtain ⟨_, _, _, _, _, _, rfl, _⟩ := Reserve.updateState_eq_ok hr
    exact same.setReserve rfl
  | updateInterestRates h =>
    obtain ⟨_, hr, rfl⟩ := updateInterestRates_eq_ok h
    obtain ⟨_, _, rfl⟩ := Reserve.updateInterestRates_eq_ok hr
    exact same.setReserve rfl
  | cumulateToLiquidityIndex h =>
    obtain ⟨_, _, rfl⟩ := cumulateToLiquidityIndex_eq_ok h
    exact same.setReserve rfl
  | mintELToken h =>
    obtain ⟨_, _, rfl⟩ := mintELToken_eq_ok h
    exact same.setReserve rfl
  | burnELToken h =>
    obtain ⟨_, _, _, rfl⟩ := burnELToken_eq_ok h
    refine SameTerms.setToken ?_
    exact same.setReserve rfl
  | moveELToken h => exact same.setReserve rfl
  | spendELToken allowed scaled h => exact same.setReserve rfl
  | approveELToken h => exact same.setReserve rfl
  | lowerELTokenAllowance lower h => exact same.setReserve rfl
  | mintVariableDebt h =>
    obtain ⟨_, _, rfl⟩ := mintVariableDebt_eq_ok h
    exact same.setReserve rfl
  | mintStableDebt nonzero h =>
    obtain ⟨_, _, rfl⟩ := mintStableDebt_eq_ok h
    exact same.setReserve rfl
  | burnVariableDebt h =>
    obtain ⟨_, _, rfl⟩ := burnVariableDebt_eq_ok h
    exact same.setReserve rfl
  | burnStableDebt h =>
    obtain ⟨_, _, rfl⟩ := burnStableDebt_eq_ok h
    exact same.setReserve rfl
  | convertStableDebt read burned minted =>
    obtain ⟨_, _, rfl⟩ := burnStableDebt_eq_ok burned
    obtain ⟨_, _, rfl⟩ := mintVariableDebt_eq_ok minted
    refine SameTerms.setReserve ?_ rfl
    exact same.setReserve rfl
  | approveStableDelegation _ msgSender a delegatee amount => exact same.setReserve rfl
  | approveVariableDelegation _ msgSender a delegatee amount => exact same.setReserve rfl
  | setUsingAsCollateral h =>
    obtain ⟨_, _, rfl⟩ := setUsingAsCollateral_eq_ok h
    exact ⟨same.reserves, same.list, same.count, same.limits⟩
  | setBorrowing h =>
    obtain ⟨_, _, rfl⟩ := setBorrowing_eq_ok h
    exact ⟨same.reserves, same.list, same.count, same.limits⟩
  | pull h =>
    obtain ⟨_, _, rfl⟩ := pullUnderlying_eq_ok h
    exact same.setToken
  | pay h =>
    obtain ⟨_, _, rfl⟩ := transferUnderlyingTo_eq_ok h
    exact same.setToken
  | sendToken h => exact same.setToken
  | spendToken h => exact same.setToken
  | approveToken h => exact same.setToken
  | listReserve h => exact fine.elim
  | setConfiguration _ a configuration => exact fine.elim
  | setReserveInterestRateStrategy _ a strategy => exact fine.elim
  | setPause _ val => exact ⟨same.reserves, same.list, same.count, same.limits⟩
  | setPrices _ priceOracle lendingRateOracle =>
    exact ⟨same.reserves, same.list, same.count, same.limits⟩

theorem Did.paused {deed : Deed} (h : Did t deed pool pool') (fine : ∀ val, deed ≠ .setPause val) :
    pool'.paused = pool.paused := by
  cases deed with
  | list asset elTokenAddress =>
    cases h with
    | listReserve h => exact (listReserve_rest h).2.2.1
  | setPause val => exact (fine val rfl).elim
  | setPrices =>
    cases h
    rfl
  | _ => rw [h.rest trivial]

theorem sameTerms_invariant {mayPause : Prop} :
    RuledInvariant (.under False mayPause) fun _ pool => start.SameTerms pool := by
  refine .of_deeds (fun _ _ _ _ fine did same => did.sameTerms fine same) ?_ ?_ ?_
  · intro t pool pool' msgSender call allowed _ _ deed hdeed
    cases call with
    | listReserve input => exact allowed.elim
    | setConfiguration asset configuration => exact allowed.elim
    | setReserveInterestRateStrategy asset strategy => exact allowed.elim
    | _ =>
      simp only [Call.deeds, List.mem_cons, List.not_mem_nil, or_false] at hdeed
      rcases hdeed with rfl | rfl | rfl | rfl | rfl | rfl | rfl | rfl | rfl
      all_goals trivial
  · rintro pool msgSender receiver _ _ _ _ ⟨a, rfl⟩
    trivial
  · rintro pool msgSender receiver onBehalfOf _ _ _ _ ⟨_, hdeed⟩
    simp only [List.mem_cons, List.not_mem_nil, or_false] at hdeed
    obtain rfl | rfl | rfl | rfl | rfl := hdeed
    all_goals trivial

theorem samePause_invariant {mayConfigure : Prop} {paused : Bool} :
    RuledInvariant (.under mayConfigure False) fun _ pool => pool.paused = paused := by
  have step : ∀ (t : Nat) (deed : Deed) (pool pool' : LendingPool), (∀ val, deed ≠ .setPause val) →
      Did t deed pool pool' → pool.paused = paused → pool'.paused = paused :=
    fun _ _ _ _ fine did same => (did.paused fine).trans same
  refine .of_deeds step ?_ ?_ ?_
  · intro t pool pool' msgSender call allowed _ _ deed hdeed val
    cases call with
    | setPause val => exact allowed.elim
    | _ =>
      simp only [Call.deeds, List.mem_cons, List.not_mem_nil, or_false] at hdeed
      rcases hdeed with rfl | rfl | rfl | rfl | rfl | rfl | rfl | rfl | rfl
      all_goals simp
  · rintro pool msgSender receiver _ _ _ _ ⟨a, rfl⟩ val ⟨⟩
  · rintro pool msgSender receiver onBehalfOf _ _ _ _ ⟨_, hdeed⟩ val
    simp only [List.mem_cons, List.not_mem_nil, or_false] at hdeed
    obtain rfl | rfl | rfl | rfl | rfl := hdeed
    all_goals simp

variable {acts : Actors} {s s' : Protocol} {t' : Nat}

/-- The pool takes steps of the pool; only who has a role configures, pauses or changes the provider. -/
theorem ProtocolSteps.steps (mayConfigure mayPause mayProvide : Prop)
    (direct : ∀ s a, acts s a → a ≠ s.provider.getLendingPoolConfigurator)
    (poolAdmin : ∀ s a, acts s a → a = s.provider.getPoolAdmin → mayConfigure)
    (emergencyAdmin : ∀ s a, acts s a → a = s.provider.getEmergencyAdmin → mayPause)
    (owner : ∀ s a, acts s a → a = s.provider.owner → mayProvide)
    (run : ProtocolSteps acts t s s') :
    Steps (.under mayConfigure mayPause) t s.pool s'.pool ∧ s'.configurator = s.configurator ∧
      (¬mayProvide → s'.provider = s.provider) := by
  induction run with
  | refl => exact ⟨.refl _, rfl, fun _ => rfl⟩
  | @call start middle last before msgSender call allowed success ih =>
    obtain ⟨steps, same, provider⟩ := ih
    obtain ⟨step, hconfigurator, hprovider⟩ := Protocol.exec_steps mayConfigure mayPause
      (direct _ _ allowed) (poolAdmin _ _ allowed) (emergencyAdmin _ _ allowed) success
    refine ⟨steps.trans step, hconfigurator.trans same, ?_⟩
    intro quiet
    have outsider : middle.provider.owner ≠ msgSender := by
      intro howner
      exact quiet (owner _ _ allowed howner.symm)
    exact (hprovider outsider).trans (provider quiet)
  | @flashLoan start middle pool' provider' before msgSender receiver assets amounts modes onBehalfOf
      executeOperation allowed callback success ih called =>
    obtain ⟨steps, same, provider⟩ := ih
    refine ⟨.flashLoan steps msgSender receiver assets amounts modes onBehalfOf executeOperation
      trivial ?_ success, same, ?_⟩
    · intro sent answer returned hanswer
      exact (called sent answer returned hanswer).1
    · intro quiet
      obtain ⟨_, _, sent, answer, returned, _, hanswer, _⟩ := flashLoan_eq_ok success
      exact ((called sent answer returned hanswer).2.2 quiet).trans (provider quiet)

theorem ProtocolLater.later (mayConfigure mayPause mayProvide : Prop)
    (direct : ∀ s a, acts s a → a ≠ s.provider.getLendingPoolConfigurator)
    (poolAdmin : ∀ s a, acts s a → a = s.provider.getPoolAdmin → mayConfigure)
    (emergencyAdmin : ∀ s a, acts s a → a = s.provider.getEmergencyAdmin → mayPause)
    (owner : ∀ s a, acts s a → a = s.provider.owner → mayProvide)
    (run : ProtocolLater acts t s t' s') :
    Later (.under mayConfigure mayPause) t s.pool t' s'.pool ∧
      (¬mayProvide → s'.provider = s.provider) := by
  induction run with
  | now => exact ⟨.now, fun _ => rfl⟩
  | block _ later timestamp steps ih =>
    obtain ⟨earlier, provider⟩ := ih
    obtain ⟨block, _, hprovider⟩ := steps.steps mayConfigure mayPause mayProvide direct
      poolAdmin emergencyAdmin owner
    exact ⟨.block earlier later timestamp block, fun quiet => (hprovider quiet).trans (provider quiet)⟩

/-- Over any run in which the configurator calls nobody on its own: the provider changes only if its
owner acts, listings and their terms change only if the pool admin of some moment acts, and the pause
only if the emergency admin of some moment does. -/
theorem roles_confined
    (direct : ∀ s a, acts s a → a ≠ s.provider.getLendingPoolConfigurator)
    (run : ProtocolLater acts t s t' s') :
    ((∀ s a, acts s a → a ≠ s.provider.owner) → s'.provider = s.provider) ∧
      ((∀ s a, acts s a → a ≠ s.provider.getPoolAdmin) → s.pool.SameTerms s'.pool) ∧
      ((∀ s a, acts s a → a ≠ s.provider.getEmergencyAdmin) → s'.pool.paused = s.pool.paused) := by
  refine ⟨?_, ?_, ?_⟩
  · intro quiet
    obtain ⟨_, provider⟩ := run.later True True False direct (fun _ _ _ _ => trivial)
      (fun _ _ _ _ => trivial) quiet
    exact provider not_false
  · intro quiet
    obtain ⟨later, _⟩ := run.later False True True direct quiet (fun _ _ _ _ => trivial)
      (fun _ _ _ _ => trivial)
    exact sameTerms_invariant.after later ⟨fun _ => rfl, rfl, rfl, rfl⟩
  · intro quiet
    obtain ⟨later, _⟩ := run.later True False True direct (fun _ _ _ _ => trivial) quiet
      (fun _ _ _ _ => trivial)
    exact samePause_invariant.after later rfl

/-- Anybody without a role. -/
def Actors.outsiders : Actors := fun s a =>
  a ≠ s.provider.getLendingPoolConfigurator ∧ a ≠ s.provider.owner ∧
    a ≠ s.provider.getPoolAdmin ∧ a ≠ s.provider.getEmergencyAdmin

/-- A market whose provider is owned by 70; 71 administers it, 72 may pause it. -/
def governedMarket : Protocol where
  provider := (((LendingPoolAddressesProvider.mk 70 "" fun _ => 0).withAddress
    LendingPoolAddressesProvider.LENDING_POOL_CONFIGURATOR 73).withAddress
      LendingPoolAddressesProvider.POOL_ADMIN 71).withAddress
        LendingPoolAddressesProvider.EMERGENCY_ADMIN 72
  configurator := 73
  pool := Market.endState (Market.setup 1000)

theorem governedMarket_roles_confined :
    ∃ s', ProtocolLater .outsiders 0 governedMarket 1 s' ∧
      s'.provider = governedMarket.provider ∧ governedMarket.pool.SameTerms s'.pool ∧
        s'.pool.paused = governedMarket.pool.paused := by
  have deposited : (governedMarket.exec 1 Market.alice
      (.user ⟨.deposit Market.weth (10 ^ 20) Market.alice, rfl⟩)).isOk = true := by decide +kernel
  obtain ⟨s', hcall⟩ := exists_of_isOk deposited
  have outsider : Actors.outsiders governedMarket Market.alice := by
    unfold Actors.outsiders
    decide +kernel
  have run : ProtocolLater .outsiders 0 governedMarket 1 s' :=
    .block .now (by decide) (by decide) (.call (.refl _) Market.alice _ outsider hcall)
  obtain ⟨provider, terms, pause⟩ := roles_confined (fun _ _ h => h.1) run
  exact ⟨s', run, provider fun _ _ h => h.2.1, terms fun _ _ h => h.2.2.1, pause fun _ _ h => h.2.2.2⟩

end ElectroLend
