import ElectroLend.Pool.DebtFrame
import ElectroLend.Pool.Steps
import ElectroLend.Tokens.SupplyRuns

namespace ElectroLend

open Outcome

/-- What a storage operation may be remembered for: credit that is delegated or used, and writes
that only the configurator makes. -/
inductive Event
  | approved (asset : Address) (mode : InterestRateMode) (delegator delegatee : Address)
      (amount : Nat)
  | opened (asset : Address) (mode : InterestRateMode) (user onBehalfOf : Address) (amount : Nat)
  | listed (asset : Address)
  | configured (asset : Address)

/-- Only the configurator lists and configures. -/
def Event.byConfigurator : Event → Bool
  | listed _ | configured _ => true
  | _ => false

/-- Debt that `user` opens; opening it for oneself is no event. -/
def Event.openedBy (asset : Address) (mode : InterestRateMode) (user onBehalfOf : Address)
    (amount : Nat) : List Event :=
  if user = onBehalfOf then [] else [.opened asset mode user onBehalfOf amount]

theorem Event.openedBy_self (asset : Address) (mode : InterestRateMode) (user : Address)
    (amount : Nat) : openedBy asset mode user user amount = [] :=
  if_pos rfl

namespace LendingPool

/-- The block has accrued the reserve. -/
def Accrued (pool : LendingPool) (t : Nat) (asset : Address) : Prop :=
  (pool.reserves asset).lastUpdateTimestamp = uint40 t

/-- The tokens of the reserve are deployed. -/
def Deployed (pool : LendingPool) (asset : Address) : Prop :=
  (pool.reserves asset).elTokenAddress ≠ 0 ∨ (pool.reserves asset).variableDebtTokenAddress ≠ 0

/-- The storage operations that the functions of the pool are made of, each with what the functions
have made sure of before it. -/
inductive Write (t : Nat) : List Event → LendingPool → LendingPool → Prop
  | updateState {pool pool' : LendingPool} {asset : Address}
      (h : pool.updateState t asset = .ok pool') : Write t [] pool pool'
  | updateInterestRates {pool pool' : LendingPool} {asset elToken : Address} {added taken : Nat}
      (accrued : pool.Accrued t asset)
      (h : pool.updateInterestRates t asset elToken added taken = .ok pool') : Write t [] pool pool'
  | cumulateToLiquidityIndex {pool pool' : LendingPool} {asset : Address} {amount : Nat}
      (h : pool.cumulateToLiquidityIndex asset amount = .ok pool') : Write t [] pool pool'
  | setUsingAsCollateral {pool pool' : LendingPool} {asset u : Address} {value : Bool}
      (deployed : value = true → pool.Deployed asset)
      (h : pool.setUsingAsCollateral u (pool.reserves asset).id value = .ok pool') :
      Write t [] pool pool'
  | setBorrowing {pool pool' : LendingPool} {asset u : Address} {value : Bool}
      (deployed : value = true → pool.Deployed asset)
      (h : pool.setBorrowing u (pool.reserves asset).id value = .ok pool') : Write t [] pool pool'
  | setToken (pool : LendingPool) (asset : Address) (token : ERC20) :
      Write t [] pool (pool.setToken asset token)
  | setELToken {pool : LendingPool} {asset : Address} {elToken : ELToken} {call : ELTokenCall}
      (h : (pool.reserves asset).elToken.exec call = .ok elToken) :
      Write t [] pool (pool.setReserve asset { pool.reserves asset with elToken })
  | mintVariableDebt {pool pool' : LendingPool} {asset u v : Address} {amount index : Nat}
      {first : Bool} (h : pool.mintVariableDebt asset u v amount index = .ok (first, pool')) :
      Write t (Event.openedBy asset .variable u v amount) pool pool'
  | burnVariableDebt {pool pool' : LendingPool} {asset u : Address} {amount : Nat}
      (h : pool.burnVariableDebt asset u amount = .ok pool') : Write t [] pool pool'
  | mintStableDebt {pool pool' : LendingPool} {asset u v : Address} {amount : Nat} {first : Bool}
      (accrued : pool.Accrued t asset)
      (h : pool.mintStableDebt t asset u v amount = .ok (first, pool')) :
      Write t (Event.openedBy asset .stable u v amount) pool pool'
  | burnStableDebt {pool pool' : LendingPool} {asset u : Address} {amount : Nat}
      (accrued : pool.Accrued t asset)
      (h : pool.burnStableDebt t asset u amount = .ok pool') : Write t [] pool pool'
  | approveStableDelegation (pool : LendingPool) (msgSender asset delegatee : Address)
      (amount : Nat) : Write t [.approved asset .stable msgSender delegatee amount] pool
        (pool.approveStableDelegation msgSender asset delegatee amount)
  | approveVariableDelegation (pool : LendingPool) (msgSender asset delegatee : Address)
      (amount : Nat) : Write t [.approved asset .variable msgSender delegatee amount] pool
        (pool.approveVariableDelegation msgSender asset delegatee amount)
  | listReserve {pool pool' : LendingPool} {input : InitReserveInput}
      (h : pool.listReserve input = .ok pool') : Write t [.listed input.underlyingAsset] pool pool'
  | setConfiguration (pool : LendingPool) (asset : Address)
      (configuration : ReserveConfigurationMap) :
      Write t [.configured asset] pool (pool.setConfiguration asset configuration)
  | setReserveInterestRateStrategy (pool : LendingPool) (asset : Address)
      (strategy : DefaultReserveInterestRateStrategy) :
      Write t [] pool (pool.setReserveInterestRateStrategy asset strategy)
  | setWorld (pool : LendingPool) (paused : Bool) (priceOracle lendingRateOracle : Address → Nat) :
      Write t [] pool { pool with paused, priceOracle, lendingRateOracle }

/-- A chain of storage operations in one block, with its events in order. -/
inductive Writes (t : Nat) : List Event → LendingPool → LendingPool → Prop
  | refl (pool : LendingPool) : Writes t [] pool pool
  | tail {events new : List Event} {pool pool' pool'' : LendingPool}
      (before : Writes t events pool pool') (last : Write t new pool' pool'') :
      Writes t (events ++ new) pool pool''

variable {pool pool' pool'' : LendingPool} {t amount index added taken : Nat}
  {asset elToken u v : Address} {events events' : List Event}

theorem Write.writes (h : Write t events pool pool') : Writes t events pool pool' :=
  Writes.tail (.refl pool) h

theorem Writes.trans (h : Writes t events pool pool') (h' : Writes t events' pool' pool'') :
    Writes t (events ++ events') pool pool'' := by
  induction h' with
  | refl =>
    rw [List.append_nil]
    exact h
  | tail _ last ih =>
    rw [← List.append_assoc]
    exact (ih h).tail last

theorem Writes.invariant (P : LendingPool → Prop)
    (step : ∀ events pool pool', P pool → Write t events pool pool' → P pool')
    (h : Writes t events pool pool') (initial : P pool) : P pool' := by
  induction h with
  | refl => exact initial
  | tail _ last ih => exact step _ _ _ (ih initial) last

/-- There is nothing to remember. -/
abbrev Quietly (t : Nat) (pool pool' : LendingPool) : Prop := Writes t [] pool pool'

theorem Quietly.trans (h : Quietly t pool pool') (h' : Quietly t pool' pool'') :
    Quietly t pool pool'' :=
  Writes.trans h h'

theorem updateState_accrued (h : pool.updateState t asset = .ok pool') :
    pool'.Accrued t asset ∧ pool'.Deployed asset := by
  obtain ⟨r, hr, rfl⟩ := updateState_eq_ok h
  simp only [Reserve.updateState, Reserve.updateIndexes, requireContract, bind_eq_ok,
    require_eq_ok, pure_eq_ok] at hr
  obtain ⟨_, hdeployed, _, ⟨_, _, _, _, _, _, rfl⟩, _, _, rfl⟩ := hr
  exact ⟨by simp [Accrued], .inr (by simpa using hdeployed)⟩

/-- The parts of the reserve of an asset that tell whether it is accrued and deployed. -/
structure SameClock (pool pool' : LendingPool) (asset : Address) : Prop where
  timestamp :
    (pool'.reserves asset).lastUpdateTimestamp = (pool.reserves asset).lastUpdateTimestamp
  elToken : (pool'.reserves asset).elTokenAddress = (pool.reserves asset).elTokenAddress
  variableDebtToken : (pool'.reserves asset).variableDebtTokenAddress =
    (pool.reserves asset).variableDebtTokenAddress

theorem SameClock.refl (pool : LendingPool) (asset : Address) : pool.SameClock pool asset :=
  ⟨rfl, rfl, rfl⟩

theorem SameClock.trans (h : pool.SameClock pool' asset) (h' : pool'.SameClock pool'' asset) :
    pool.SameClock pool'' asset where
  timestamp := h'.timestamp.trans h.timestamp
  elToken := h'.elToken.trans h.elToken
  variableDebtToken := h'.variableDebtToken.trans h.variableDebtToken

theorem Accrued.same (h : pool.Accrued t asset) (same : pool.SameClock pool' asset) :
    pool'.Accrued t asset :=
  same.timestamp.trans h

theorem Deployed.same (h : pool.Deployed asset) (same : pool.SameClock pool' asset) :
    pool'.Deployed asset := by
  rw [Deployed, same.elToken, same.variableDebtToken]
  exact h

theorem SameClock.setReserve {r : Reserve}
    (timestamp : r.lastUpdateTimestamp = (pool.reserves asset).lastUpdateTimestamp)
    (elToken : r.elTokenAddress = (pool.reserves asset).elTokenAddress)
    (variableDebtToken :
      r.variableDebtTokenAddress = (pool.reserves asset).variableDebtTokenAddress) :
    pool.SameClock (pool.setReserve asset r) asset := by
  refine ⟨?_, ?_, ?_⟩
  · simpa using timestamp
  · simpa using elToken
  · simpa using variableDebtToken

theorem updateInterestRates_clock
    (h : pool.updateInterestRates t asset elToken added taken = .ok pool') :
    pool.SameClock pool' asset := by
  obtain ⟨_, hr, rfl⟩ := updateInterestRates_eq_ok h
  obtain ⟨_, _, rfl⟩ := Reserve.updateInterestRates_eq_ok hr
  exact .setReserve rfl rfl rfl

theorem cumulateToLiquidityIndex_clock
    (h : pool.cumulateToLiquidityIndex asset amount = .ok pool') : pool.SameClock pool' asset := by
  obtain ⟨_, _, rfl⟩ := cumulateToLiquidityIndex_eq_ok h
  exact .setReserve rfl rfl rfl

theorem pullUnderlying_clock (h : pool.pullUnderlying asset u v amount = .ok pool') :
    pool.SameClock pool' asset := by
  obtain ⟨_, _, rfl⟩ := pullUnderlying_eq_ok h
  exact ⟨rfl, rfl, rfl⟩

theorem mintELToken_clock {first : Bool}
    (h : pool.mintELToken asset u amount = .ok (first, pool')) : pool.SameClock pool' asset := by
  obtain ⟨_, _, rfl⟩ := mintELToken_eq_ok h
  exact .setReserve rfl rfl rfl

theorem mintVariableDebt_clock {first : Bool}
    (h : pool.mintVariableDebt asset u v amount index = .ok (first, pool')) :
    pool.SameClock pool' asset := by
  obtain ⟨_, _, rfl⟩ := mintVariableDebt_eq_ok h
  exact .setReserve rfl rfl rfl

theorem mintStableDebt_clock {first : Bool}
    (h : pool.mintStableDebt t asset u v amount = .ok (first, pool')) :
    pool.SameClock pool' asset := by
  obtain ⟨_, _, rfl⟩ := mintStableDebt_eq_ok h
  exact .setReserve rfl rfl rfl

theorem burnVariableDebt_clock (h : pool.burnVariableDebt asset u amount = .ok pool') :
    pool.SameClock pool' asset := by
  obtain ⟨_, _, rfl⟩ := burnVariableDebt_eq_ok h
  exact .setReserve rfl rfl rfl

theorem burnStableDebt_clock (h : pool.burnStableDebt t asset u amount = .ok pool') :
    pool.SameClock pool' asset := by
  obtain ⟨_, _, rfl⟩ := burnStableDebt_eq_ok h
  exact .setReserve rfl rfl rfl

theorem setUserConfig_clock (pool : LendingPool) (u : Address) (config : UserConfigurationMap)
    (asset : Address) : pool.SameClock (pool.setUserConfig u config) asset :=
  ⟨rfl, rfl, rfl⟩

theorem pullUnderlying_writes (h : pool.pullUnderlying asset u v amount = .ok pool') :
    Quietly t pool pool' := by
  obtain ⟨token, _, rfl⟩ := pullUnderlying_eq_ok h
  exact (Write.setToken pool asset token).writes

theorem transferUnderlyingTo_writes (h : pool.transferUnderlyingTo asset u v amount = .ok pool') :
    Quietly t pool pool' := by
  obtain ⟨token, _, rfl⟩ := transferUnderlyingTo_eq_ok h
  exact (Write.setToken pool asset token).writes

theorem mintELToken_writes {first : Bool}
    (h : pool.mintELToken asset u amount = .ok (first, pool')) : Quietly t pool pool' := by
  obtain ⟨elToken, hm, rfl⟩ := mintELToken_eq_ok h
  have minted : (pool.reserves asset).elToken.exec
      (.mint u amount (pool.reserves asset).liquidityIndex) = .ok elToken :=
    bind_eq_ok.mpr ⟨_, hm, rfl⟩
  exact (Write.setELToken minted).writes

theorem burnELToken_writes (h : pool.burnELToken asset u v amount = .ok pool') :
    Quietly t pool pool' := by
  obtain ⟨elToken, token, hb, rfl⟩ := burnELToken_eq_ok h
  have burned : (pool.reserves asset).elToken.exec (.burn (pool.tokens asset)
      (pool.reserves asset).elTokenAddress u v amount (pool.reserves asset).liquidityIndex) =
        .ok elToken := bind_eq_ok.mpr ⟨_, hb, rfl⟩
  exact (Write.setELToken burned).writes.trans (Write.setToken _ asset token).writes

theorem setUsingAsCollateral_writes {value : Bool} (deployed : value = true → pool.Deployed asset)
    (h : pool.setUsingAsCollateral u (pool.reserves asset).id value = .ok pool') :
    Quietly t pool pool' :=
  (Write.setUsingAsCollateral deployed h).writes

theorem deposit_writes {msgSender : Address}
    (h : pool.deposit t msgSender asset amount u = .ok pool') : Quietly t pool pool' := by
  obtain ⟨p₁, p₂, p₃, first, p₄, h₁, h₂, h₃, h₄, hbit⟩ := deposit_eq_ok h
  obtain ⟨accrued, deployed⟩ := updateState_accrued h₁
  have minted : Quietly t pool p₄ :=
    (Write.updateState h₁).writes.trans ((Write.updateInterestRates accrued h₂).writes.trans
      ((pullUnderlying_writes h₃).trans (mintELToken_writes h₄)))
  obtain ⟨_, hset⟩ | ⟨_, rfl⟩ := hbit
  · have same := (updateInterestRates_clock h₂).trans
      ((pullUnderlying_clock h₃).trans (mintELToken_clock h₄))
    exact minted.trans (setUsingAsCollateral_writes (fun _ => deployed.same same) hset)
  · exact minted

theorem withdraw_writes {msgSender recipient : Address} {paid : Nat}
    (h : pool.withdraw t msgSender asset amount recipient = .ok (paid, pool')) :
    Quietly t pool pool' := by
  obtain ⟨_, p₁, p₂, p₃, _, _, h₁, h₂, hbit, h₄, _⟩ := withdraw_eq_ok h
  have cleared : Quietly t p₂ p₃ := by
    obtain ⟨_, hset⟩ | ⟨_, rfl⟩ := hbit
    · exact setUsingAsCollateral_writes (fun hc => by cases hc) hset
    · exact .refl _
  exact (Write.updateState h₁).writes.trans
    ((Write.updateInterestRates (updateState_accrued h₁).1 h₂).writes.trans
      (cleared.trans (burnELToken_writes h₄)))

theorem mintDebt_writes {vars : ExecuteBorrowParams} {mode : InterestRateMode} {first : Bool}
    (hmode : InterestRateMode.fromNat vars.interestRateMode = .ok mode) (hne : mode ≠ .none)
    (accrued : pool.Accrued t vars.asset) (h : pool.mintDebt t vars = .ok (first, pool')) :
    Writes t (Event.openedBy vars.asset mode vars.user vars.onBehalfOf vars.amount) pool pool' ∧
      pool.SameClock pool' vars.asset := by
  simp only [mintDebt, hmode, ok_bind, ite_eq_ok] at h
  obtain ⟨rfl, hmint⟩ | ⟨hvariable, hmint⟩ := h
  · exact ⟨(Write.mintStableDebt accrued hmint).writes, mintStableDebt_clock hmint⟩
  · cases mode with
    | none => exact absurd rfl hne
    | stable => exact absurd rfl hvariable
    | «variable» => exact ⟨(Write.mintVariableDebt hmint).writes, mintVariableDebt_clock hmint⟩

theorem validateBorrow_mode {value mode : Nat}
    (h : pool.validateBorrow t asset u amount value mode = .ok ()) : mode = 2 ∨ mode = 1 := by
  simp only [validateBorrow, bind_eq_ok, require_eq_ok] at h
  obtain ⟨_, _, _, _, _, _, _, _, _, hmode, _⟩ := h
  exact hmode

theorem executeBorrow_writes {vars : ExecuteBorrowParams}
    (h : pool.executeBorrow t vars = .ok pool') :
    ∃ mode, InterestRateMode.fromNat vars.interestRateMode = .ok mode ∧
      Writes t (Event.openedBy vars.asset mode vars.user vars.onBehalfOf vars.amount)
        pool pool' := by
  obtain ⟨p₁, first, p₂, p₃, p₄, hvalid, h₁, h₂, hbit, h₄, hsend⟩ := executeBorrow_eq_ok h
  obtain ⟨accrued, deployed⟩ := updateState_accrued h₁
  obtain ⟨mode, hmode, hne⟩ :
      ∃ mode, InterestRateMode.fromNat vars.interestRateMode = .ok mode ∧ mode ≠ .none := by
    obtain hm | hm := validateBorrow_mode hvalid
    · exact ⟨.variable, by rw [hm]; rfl, by decide⟩
    · exact ⟨.stable, by rw [hm]; rfl, by decide⟩
  obtain ⟨minted, same⟩ := mintDebt_writes hmode hne accrued h₂
  have marked : Quietly t p₂ p₃ ∧ p₂.SameClock p₃ vars.asset := by
    obtain ⟨_, hset⟩ | ⟨_, rfl⟩ := hbit
    · refine ⟨(Write.setBorrowing (fun _ => deployed.same same) hset).writes, ?_⟩
      obtain ⟨config, _, rfl⟩ := setBorrowing_eq_ok hset
      exact setUserConfig_clock _ _ _ _
    · exact ⟨.refl _, .refl _ _⟩
  have rated : Quietly t p₂ p₄ :=
    marked.1.trans (Write.updateInterestRates (accrued.same (same.trans marked.2)) h₄).writes
  have sent : Quietly t p₄ pool' := by
    obtain ⟨_, hsend⟩ | ⟨_, rfl⟩ := hsend
    · exact transferUnderlyingTo_writes hsend
    · exact .refl _
  refine ⟨mode, hmode, ?_⟩
  have chain := ((Write.updateState h₁).writes.trans minted).trans (rated.trans sent)
  rwa [List.nil_append, List.append_nil] at chain

theorem borrow_writes {msgSender : Address} {mode : Nat}
    (h : pool.borrow t msgSender asset amount mode u = .ok pool') :
    ∃ rateMode, InterestRateMode.fromNat mode = .ok rateMode ∧
      Writes t (Event.openedBy asset rateMode msgSender u amount) pool pool' := by
  simp only [borrow, bind_eq_ok] at h
  obtain ⟨_, _, hexec⟩ := h
  exact executeBorrow_writes hexec

theorem burnDebt_writes {mode : InterestRateMode} (accrued : pool.Accrued t asset)
    (h : pool.burnDebt t asset u amount mode = .ok pool') :
    Quietly t pool pool' ∧ pool.SameClock pool' asset := by
  obtain ⟨_, hburn⟩ | ⟨_, hburn⟩ := ite_eq_ok.mp h
  · exact ⟨(Write.burnStableDebt accrued hburn).writes, burnStableDebt_clock hburn⟩
  · exact ⟨(Write.burnVariableDebt hburn).writes, burnVariableDebt_clock hburn⟩

theorem repay_writes {msgSender : Address} {mode paid : Nat}
    (h : pool.repay t msgSender asset amount mode u = .ok (paid, pool')) :
    Quietly t pool pool' := by
  obtain ⟨_, _, _, p₁, p₂, p₃, p₄, _, _, _, _, _, h₁, h₂, h₃, _, hbit, h₅⟩ := repay_eq_ok h
  obtain ⟨accrued, _⟩ := updateState_accrued h₁
  obtain ⟨burned, same⟩ := burnDebt_writes accrued h₂
  have cleared : Quietly t p₃ p₄ := by
    obtain ⟨_, hset⟩ | ⟨_, rfl⟩ := hbit
    · exact (Write.setBorrowing (fun hc => by cases hc) hset).writes
    · exact .refl _
  exact (Write.updateState h₁).writes.trans (burned.trans
    ((Write.updateInterestRates (accrued.same same) h₃).writes.trans
      (cleared.trans (pullUnderlying_writes h₅))))

/-- The debt changes its mode for the account that owes it. -/
theorem swapDebt_writes {mode : InterestRateMode} {stableDebt variableDebt : Nat} {first : Bool}
    (accrued : pool.Accrued t asset)
    (h : pool.swapDebt t asset u stableDebt variableDebt mode = .ok (first, pool')) :
    Quietly t pool pool' ∧ pool.SameClock pool' asset := by
  simp only [swapDebt, ite_eq_ok, bind_eq_ok] at h
  obtain ⟨_, middle, hburn, hmint⟩ | ⟨_, middle, hburn, hmint⟩ := h
  · have minted := (Write.mintVariableDebt (t := t) hmint).writes
    rw [Event.openedBy_self] at minted
    exact ⟨(Write.burnStableDebt accrued hburn).writes.trans minted,
      (burnStableDebt_clock hburn).trans (mintVariableDebt_clock hmint)⟩
  · have minted :=
      (Write.mintStableDebt (accrued.same (burnVariableDebt_clock hburn)) hmint).writes
    rw [Event.openedBy_self] at minted
    exact ⟨(Write.burnVariableDebt hburn).writes.trans minted,
      (burnVariableDebt_clock hburn).trans (mintStableDebt_clock hmint)⟩

theorem swapBorrowRateMode_writes {msgSender : Address} {mode : Nat}
    (h : pool.swapBorrowRateMode t msgSender asset mode = .ok pool') : Quietly t pool pool' := by
  obtain ⟨_, _, _, p₁, _, p₂, _, _, _, _, h₁, hswap, h₃⟩ := swapBorrowRateMode_eq_ok h
  obtain ⟨accrued, _⟩ := updateState_accrued h₁
  obtain ⟨swapped, same⟩ := swapDebt_writes accrued hswap
  exact (Write.updateState h₁).writes.trans
    (swapped.trans (Write.updateInterestRates (accrued.same same) h₃).writes)

theorem rebalanceStableBorrowRate_writes
    (h : pool.rebalanceStableBorrowRate t asset u = .ok pool') : Quietly t pool pool' := by
  obtain ⟨_, p₁, p₂, _, p₃, _, h₁, h₂, h₃, h₄⟩ := rebalanceStableBorrowRate_eq_ok h
  obtain ⟨accrued, _⟩ := updateState_accrued h₁
  have minted := (Write.mintVariableDebt (t := t) h₃).writes
  rw [Event.openedBy_self] at minted
  have same := (burnStableDebt_clock h₂).trans (mintVariableDebt_clock h₃)
  exact (Write.updateState h₁).writes.trans ((Write.burnStableDebt accrued h₂).writes.trans
    (minted.trans (Write.updateInterestRates (accrued.same same) h₄).writes))

theorem elTokenBalanceOf_deployed {balance : Nat}
    (h : (pool.reserves asset).elTokenBalanceOf u = .ok balance) : pool.Deployed asset := by
  simp only [Reserve.elTokenBalanceOf, requireContract, bind_eq_ok, require_eq_ok] at h
  obtain ⟨_, hdeployed, _⟩ := h
  exact .inl hdeployed

theorem setUserUseReserveAsCollateral_writes {msgSender : Address} {value : Bool}
    (h : pool.setUserUseReserveAsCollateral t msgSender asset value = .ok pool') :
    Quietly t pool pool' := by
  simp only [setUserUseReserveAsCollateral, validateSetUseReserveAsCollateral, bind_eq_ok] at h
  obtain ⟨_, _, _, ⟨_, hbalance, _⟩, hset⟩ := h
  exact setUsingAsCollateral_writes (fun _ => elTokenBalanceOf_deployed hbalance) hset

theorem finalizeTransfer_writes {caller : Address} {beforeFrom beforeTo : Nat}
    (deployed : pool.Deployed asset)
    (h : pool.finalizeTransfer t caller asset u v amount beforeFrom beforeTo = .ok pool') :
    Quietly t pool pool' ∧ pool.SameClock pool' asset := by
  obtain ⟨_, _, ⟨_, rfl⟩ | ⟨_, _, middle, hfrom, hto⟩⟩ := finalizeTransfer_eq_ok h
  · exact ⟨.refl _, .refl _ _⟩
  have first : Quietly t pool middle ∧ middle.reserves = pool.reserves := by
    obtain ⟨_, hset⟩ | ⟨_, rfl⟩ := hfrom
    · refine ⟨setUsingAsCollateral_writes (fun hc => by cases hc) hset, ?_⟩
      obtain ⟨_, _, rfl⟩ := setUsingAsCollateral_eq_ok hset
      rfl
    · exact ⟨.refl _, rfl⟩
  obtain ⟨cleared, hreserves⟩ := first
  obtain ⟨_, _, hset⟩ | ⟨_, rfl⟩ := hto
  · rw [← hreserves] at hset
    have still : middle.Deployed asset := by
      rw [Deployed, hreserves]
      exact deployed
    refine ⟨cleared.trans (setUsingAsCollateral_writes (fun _ => still) hset), ?_⟩
    obtain ⟨_, _, rfl⟩ := setUsingAsCollateral_eq_ok hset
    exact ⟨by simp [hreserves], by simp [hreserves], by simp [hreserves]⟩
  · exact ⟨cleared, by rw [hreserves], by rw [hreserves], by rw [hreserves]⟩

theorem transferELToken_writes {validate : Bool} (deployed : pool.Deployed asset)
    (h : pool.transferELToken t asset u v amount validate = .ok pool') :
    Quietly t pool pool' ∧ pool.SameClock pool' asset := by
  obtain ⟨index, _, _, scaled, balances, hindex, hfrom, hto, hscaled, hmove, moved, rfl, hfin⟩ :=
    transferELToken_eq_ok h
  -- the pool checks the transfer after it has stored the balances
  have transferred : (pool.reserves asset).elToken.exec
      (.transferOnLiquidation ⟨.ok index, fun _ _ _ _ _ => .ok ()⟩ u v amount) =
        .ok { (pool.reserves asset).elToken with balances } := by
    simp only [ELToken.exec, ELToken.transferValidated, ELToken.transferScaled,
      ELToken.scaledBalanceOf, ok_bind, hfrom, hto, hscaled, hmove]
    rfl
  have moves := (Write.setELToken (t := t) transferred).writes
  have same : pool.SameClock (pool.setReserve asset { pool.reserves asset with
      elToken := { (pool.reserves asset).elToken with balances } }) asset :=
    .setReserve rfl rfl rfl
  obtain ⟨_, hfin⟩ | ⟨_, rfl⟩ := hfin
  · obtain ⟨finished, kept⟩ := finalizeTransfer_writes (deployed.same same) hfin
    exact ⟨Quietly.trans moves finished, same.trans kept⟩
  · exact ⟨moves, same⟩

theorem elTokenTransfer_writes {msgSender : Address}
    (h : pool.elTokenTransfer t msgSender asset v amount = .ok pool') : Quietly t pool pool' := by
  simp only [elTokenTransfer, requireContract, bind_eq_ok, require_eq_ok] at h
  obtain ⟨_, hdeployed, htransfer⟩ := h
  exact (transferELToken_writes (.inl hdeployed) htransfer).1

theorem elTokenTransferFrom_writes {msgSender : Address}
    (h : pool.elTokenTransferFrom t msgSender asset u v amount = .ok pool') :
    Quietly t pool pool' := by
  obtain ⟨moved, elToken, hdeployed, htransfer, _, happrove, rfl⟩ := elTokenTransferFrom_eq_ok h
  have approved : (moved.reserves asset).elToken.exec (.approve u msgSender
      ((moved.reserves asset).elToken.allowances u msgSender - amount)) = .ok elToken := happrove
  exact (transferELToken_writes (.inl hdeployed) htransfer).1.trans
    (Write.setELToken approved).writes

theorem burnLiquidatedDebt_writes {debt : Nat} (accrued : pool.Accrued t asset)
    (h : pool.burnLiquidatedDebt t asset u debt amount = .ok pool') :
    Quietly t pool pool' ∧ pool.SameClock pool' asset := by
  obtain ⟨_, hb⟩ | ⟨_, middle, hb, hs⟩ := burnLiquidatedDebt_eq_ok h
  · exact ⟨(Write.burnVariableDebt hb).writes, burnVariableDebt_clock hb⟩
  · obtain ⟨_, hb⟩ | ⟨_, rfl⟩ := hb
    · have same := burnVariableDebt_clock hb
      exact ⟨(Write.burnVariableDebt hb).writes.trans
        (Write.burnStableDebt (accrued.same same) hs).writes, same.trans (burnStableDebt_clock hs)⟩
    · exact ⟨(Write.burnStableDebt accrued hs).writes, burnStableDebt_clock hs⟩

theorem seizeCollateral_writes {msgSender : Address} {receiveLToken : Bool}
    (deployed : pool.Deployed asset)
    (h : pool.seizeCollateral t msgSender asset u amount receiveLToken = .ok pool') :
    Quietly t pool pool' := by
  obtain ⟨_, moved, htransfer, hbit⟩ | ⟨_, p₁, p₂, h₁, h₂, h₃⟩ := seizeCollateral_eq_ok h
  · obtain ⟨moves, same⟩ := transferELToken_writes deployed htransfer
    obtain ⟨_, hset⟩ | ⟨_, rfl⟩ := hbit
    · exact moves.trans (setUsingAsCollateral_writes (fun _ => deployed.same same) hset)
    · exact moves
  · exact (Write.updateState h₁).writes.trans
      ((Write.updateInterestRates (updateState_accrued h₁).1 h₂).writes.trans
        (burnELToken_writes h₃))

theorem liquidationCall_writes {msgSender collateralAsset debtAsset : Address}
    {receiveLToken : Bool} (h : pool.liquidationCall t msgSender collateralAsset debtAsset u amount
      receiveLToken = .ok pool') : Quietly t pool pool' := by
  obtain ⟨debt, seized, marked, hcover, _, hseize, hbit, hpull⟩ := liquidationCall_eq_ok h
  obtain ⟨_, _, _, _, p₁, p₂, _, _, hbalance, _, _, _, _, h₁, h₂, h₃⟩ := coverDebt_eq_ok hcover
  obtain ⟨accrued, _⟩ := updateState_accrued h₁
  obtain ⟨burned, same⟩ := burnLiquidatedDebt_writes accrued h₂
  -- the collateral is deployed before the debt is touched
  have listing := ((updateState_debtFrame h₁).trans ((burnLiquidatedDebt_debtFrame h₂).trans
    (updateInterestRates_debtFrame h₃))).listing.reserve collateralAsset
  have deployed : debt.pool.Deployed collateralAsset := by
    rw [Deployed, listing.elToken, listing.variableDebtToken]
    exact elTokenBalanceOf_deployed hbalance
  have cleared : Quietly t seized marked := by
    obtain ⟨_, hset⟩ | ⟨_, rfl⟩ := hbit
    · exact setUsingAsCollateral_writes (fun hc => by cases hc) hset
    · exact .refl _
  exact (Write.updateState h₁).writes.trans (burned.trans
    ((Write.updateInterestRates (accrued.same same) h₃).writes.trans
      ((seizeCollateral_writes deployed hseize).trans
        (cleared.trans (pullUnderlying_writes hpull)))))

theorem elTokenApprove_writes {msgSender : Address}
    (h : pool.elTokenApprove msgSender asset v amount = .ok pool') : Quietly t pool pool' := by
  simp only [elTokenApprove, bind_eq_ok, pure_eq_ok] at h
  obtain ⟨elToken, happrove, rfl⟩ := h
  have approved : (pool.reserves asset).elToken.exec (.approve msgSender v amount) =
      .ok elToken := happrove
  exact (Write.setELToken approved).writes

theorem callToken_writes {change : ERC20 → Result ERC20}
    (h : pool.callToken asset change = .ok pool') : Quietly t pool pool' := by
  simp only [callToken, bind_eq_ok, pure_eq_ok] at h
  obtain ⟨token, _, rfl⟩ := h
  exact (Write.setToken pool asset token).writes

theorem sendFlashLoan_writes {receiver : Address} {loans : List (Address × Nat)}
    {entries : List FlashLoanEntry}
    (h : pool.sendFlashLoan receiver loans = .ok (entries, pool')) : Quietly t pool pool' := by
  induction loans generalizing pool entries with
  | nil =>
    cases Except.ok.inj h
    exact .refl _
  | cons loan rest ih =>
    obtain ⟨asset, amount⟩ := loan
    obtain ⟨_, middle, _, _, hm, hrest, _⟩ := sendFlashLoan_cons h
    exact (transferUnderlyingTo_writes hm).trans (ih hrest)

theorem returnFlashLoan_writes {version : PoolVersion} {receiver : Address}
    {entry : FlashLoanEntry}
    (h : pool.returnFlashLoan t version receiver entry = .ok pool') : Quietly t pool pool' := by
  obtain ⟨p₁, p₂, p₃, h₁, h₂, h₃, h₄⟩ := returnFlashLoan_eq_ok h
  have accrued := (updateState_accrued h₁).1.same (cumulateToLiquidityIndex_clock h₂)
  have rated : Quietly t pool p₃ := (Write.updateState h₁).writes.trans
    ((Write.cumulateToLiquidityIndex h₂).writes.trans
      (Write.updateInterestRates accrued h₃).writes)
  obtain ⟨_, hpull⟩ | ⟨_, hpull⟩ := h₄
  · exact rated.trans (pullUnderlying_writes hpull)
  · exact rated.trans (elTokenTransferFrom_writes hpull)

/-- The debt that the entries of a flash loan open. -/
def loanEvents (msgSender onBehalfOf : Address) :
    List FlashLoanEntry → List Nat → List Event
  | entry :: entries, mode :: modes =>
    (match InterestRateMode.fromNat mode with
      | .ok .none | .error _ => []
      | .ok rateMode =>
        Event.openedBy entry.asset rateMode msgSender onBehalfOf entry.amount) ++
      loanEvents msgSender onBehalfOf entries modes
  | _, _ => []

theorem settleFlashLoan_writes {version : PoolVersion} {msgSender receiver onBehalfOf : Address}
    {entries : List FlashLoanEntry} {modes : List Nat}
    (h : pool.settleFlashLoan t version msgSender receiver onBehalfOf entries modes = .ok pool') :
    Writes t (loanEvents msgSender onBehalfOf entries modes) pool pool' := by
  induction entries generalizing pool modes with
  | nil =>
    cases Except.ok.inj h
    exact .refl _
  | cons entry entries ih =>
    obtain ⟨mode, rest, middle, rfl, hentry, hrest⟩ := settleFlashLoan_cons h
    refine Writes.trans ?_ (ih hrest)
    obtain ⟨rateMode, hmode, ⟨rfl, hreturn⟩ | ⟨hne, hborrow⟩⟩ := settleFlashLoanEntry_eq_ok hentry
    · rw [hmode]
      exact returnFlashLoan_writes hreturn
    · obtain ⟨borrowed, hb, writes⟩ := executeBorrow_writes hborrow
      cases ok_unique hb hmode
      rw [hmode]
      cases rateMode with
      | none => exact absurd rfl hne
      | stable => exact writes
      | «variable» => exact writes

end LendingPool

end ElectroLend
