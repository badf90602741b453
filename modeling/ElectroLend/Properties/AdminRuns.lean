import ElectroLend.Pool.Changes
import ElectroLend.Pool.Configurator
import ElectroLend.Pool.Scripts

namespace ElectroLend

open Outcome

namespace ReserveConfigurationMap

variable {self self' : ReserveConfigurationMap} {start width value : Nat}

theorem write_params (hlow : 56 ≤ start) (hhigh : start + width ≤ 64) (hv : value < 2 ^ width) :
    (self.write (BitField.mask 256 start width) start value).getParams = self.getParams := by
  have hn : start + width ≤ 256 := by omega
  simp only [getParams, ltv_mask, liquidationThreshold_mask, liquidationBonus_mask, decimals_mask,
    reserveFactor_mask, LIQUIDATION_THRESHOLD_START_BIT_POSITION,
    LIQUIDATION_BONUS_START_BIT_POSITION, RESERVE_DECIMALS_START_BIT_POSITION,
    RESERVE_FACTOR_START_BIT_POSITION, Params.mk.injEq]
  exact ⟨field_write_other hn hv (by omega), field_write_other hn hv (by omega),
    field_write_other hn hv (by omega), field_write_other hn hv (by omega),
    field_write_other hn hv (by omega)⟩

theorem setActive_params (active : Bool) : (self.setActive active).getParams = self.getParams := by
  rw [setActive, active_mask]
  exact write_params (by decide) (by decide) (bool_toNat_lt active)

theorem setFrozen_params (frozen : Bool) : (self.setFrozen frozen).getParams = self.getParams := by
  rw [setFrozen, frozen_mask]
  exact write_params (by decide) (by decide) (bool_toNat_lt frozen)

theorem setBorrowingEnabled_params (enabled : Bool) :
    (self.setBorrowingEnabled enabled).getParams = self.getParams := by
  rw [setBorrowingEnabled, borrowing_mask]
  exact write_params (by decide) (by decide) (bool_toNat_lt enabled)

theorem setStableRateBorrowingEnabled_params (enabled : Bool) :
    (self.setStableRateBorrowingEnabled enabled).getParams = self.getParams := by
  rw [setStableRateBorrowingEnabled, stableBorrowing_mask]
  exact write_params (by decide) (by decide) (bool_toNat_lt enabled)

theorem setReserveFactor_params {reserveFactor : Nat}
    (h : self.setReserveFactor reserveFactor = .ok self') :
    self'.getParams = { self.getParams with reserveFactor } := by
  simp only [setReserveFactor, bind_eq_ok, require_eq_ok, pure_eq_ok] at h
  obtain ⟨_, hle, rfl⟩ := h
  have hv : reserveFactor < 2 ^ 16 := Nat.lt_succ_of_le hle
  simp only [getParams, ltv_mask, liquidationThreshold_mask, liquidationBonus_mask, decimals_mask,
    reserveFactor_mask, LIQUIDATION_THRESHOLD_START_BIT_POSITION,
    LIQUIDATION_BONUS_START_BIT_POSITION, RESERVE_DECIMALS_START_BIT_POSITION,
    RESERVE_FACTOR_START_BIT_POSITION, Params.mk.injEq]
  exact ⟨field_write_other (by decide) hv (by decide), field_write_other (by decide) hv (by decide),
    field_write_other (by decide) hv (by decide), field_write_other (by decide) hv (by decide),
    field_write_same (by decide) hv⟩

theorem setCollateral_allParams {ltv threshold bonus : Nat}
    {first second : ReserveConfigurationMap} (h₁ : self.setLtv ltv = .ok first)
    (h₂ : first.setLiquidationThreshold threshold = .ok second)
    (h₃ : second.setLiquidationBonus bonus = .ok self') :
    self'.getParams = { self.getParams with
      ltv, liquidationThreshold := threshold, liquidationBonus := bonus } := by
  obtain ⟨hltv, hthreshold, hbonus⟩ := setCollateral_params h₁ h₂ h₃
  have kept : ∀ start' width', 48 ≤ start' →
      self'.field (BitField.mask 256 start' width') start' =
        self.field (BitField.mask 256 start' width') start' := by
    intro start' width' hlow
    simp only [setLtv, setLiquidationThreshold, setLiquidationBonus, bind_eq_ok, require_eq_ok,
      pure_eq_ok] at h₁ h₂ h₃
    obtain ⟨_, hl, rfl⟩ := h₁
    obtain ⟨_, ht, rfl⟩ := h₂
    obtain ⟨_, hb, rfl⟩ := h₃
    rw [ltv_mask, liquidationThreshold_mask, liquidationBonus_mask,
      LIQUIDATION_THRESHOLD_START_BIT_POSITION, LIQUIDATION_BONUS_START_BIT_POSITION,
      field_write_other (by decide) (Nat.lt_succ_of_le hb) (by omega),
      field_write_other (by decide) (Nat.lt_succ_of_le ht) (by omega),
      field_write_other (by decide) (Nat.lt_succ_of_le hl) (by omega)]
  have decimals := kept 48 8 (by decide)
  have factor := kept 64 16 (by decide)
  rw [← decimals_mask] at decimals
  rw [← reserveFactor_mask] at factor
  simp only [getParams, Params.mk.injEq] at hltv hthreshold hbonus ⊢
  exact ⟨hltv, hthreshold, hbonus, decimals, factor⟩

end ReserveConfigurationMap

namespace LendingPool

/-- `batchInitReserve`: one listing after the other. -/
def batchInitReserve (pool : LendingPool) : List InitReserveInput → Result LendingPool
  | [] => .ok pool
  | input :: rest => do
    let pool ← pool.listReserve input
    batchInitReserve pool rest

end LendingPool

/-- The calls of the LendingPoolConfigurator that write a configuration. -/
inductive AdminCall
  | batchInitReserve (input : List LendingPool.InitReserveInput)
  | configureReserveAsCollateral (asset : Address) (ltv liquidationThreshold liquidationBonus : Nat)
  | enableBorrowingOnReserve (asset : Address) (stableBorrowRateEnabled : Bool)
  | disableBorrowingOnReserve (asset : Address)
  | enableReserveStableRate (asset : Address)
  | disableReserveStableRate (asset : Address)
  | activateReserve (asset : Address)
  | deactivateReserve (asset : Address)
  | freezeReserve (asset : Address)
  | unfreezeReserve (asset : Address)
  | setReserveFactor (asset : Address) (reserveFactor : Nat)

namespace AdminCall

def exec (pool : LendingPool) : AdminCall → Result LendingPool
  | batchInitReserve input => pool.batchInitReserve input
  | configureReserveAsCollateral asset ltv liquidationThreshold liquidationBonus =>
    pool.configureReserveAsCollateral asset ltv liquidationThreshold liquidationBonus
  | enableBorrowingOnReserve asset stableBorrowRateEnabled =>
    pool.enableBorrowingOnReserve asset stableBorrowRateEnabled
  | disableBorrowingOnReserve asset => pool.disableBorrowingOnReserve asset
  | enableReserveStableRate asset => pool.enableReserveStableRate asset
  | disableReserveStableRate asset => pool.disableReserveStableRate asset
  | activateReserve asset => pool.activateReserve asset
  | deactivateReserve asset => pool.deactivateReserve asset
  | freezeReserve asset => pool.freezeReserve asset
  | unfreezeReserve asset => pool.unfreezeReserve asset
  | setReserveFactor asset reserveFactor => pool.setReserveFactor asset reserveFactor

/-- Whether the call is a listing. -/
def lists : AdminCall → Bool
  | batchInitReserve _ => true
  | _ => false

/-- The parameters of a reserve after a call that is not a listing. -/
def paramsAfter (a : Address) (params : ReserveConfigurationMap.Params) :
    AdminCall → ReserveConfigurationMap.Params
  | configureReserveAsCollateral asset ltv liquidationThreshold liquidationBonus =>
    if asset = a then { params with ltv, liquidationThreshold, liquidationBonus } else params
  | setReserveFactor asset reserveFactor =>
    if asset = a then { params with reserveFactor } else params
  | _ => params

/-- Whether the call may change the collateral parameters. -/
def configuresCollateral : AdminCall → Bool
  | configureReserveAsCollateral _ _ _ _ => true
  | _ => false

end AdminCall

/-- Everything in a run but the calls that write a configuration. -/
def userRules : Rules where
  call _ _ call := (∀ input, call ≠ .listReserve input) ∧
    ∀ asset configuration, call ≠ .setConfiguration asset configuration
  flashLoan _ _ _ := True

/-- The states that calls of the configurator reach, with any operations of users between them. -/
inductive AdminReachable : LendingPool → Prop
  | start (this : Address) (tokens : Address → ERC20)
      (priceOracle lendingRateOracle : Address → Nat) (isContract : Address → Bool) :
      AdminReachable
        (LendingPool.initialized this tokens priceOracle lendingRateOracle isContract)
  | admin {pool pool' : LendingPool} (before : AdminReachable pool) (call : AdminCall)
      (success : call.exec pool = .ok pool') : AdminReachable pool'
  | users {pool pool' : LendingPool} (before : AdminReachable pool) (t : Nat)
      (steps : Steps userRules t pool pool') : AdminReachable pool'

namespace LendingPool

variable {pool pool' : LendingPool} {t : Nat} {asset : Address} {events : List Event}

open ReserveConfigurationMap

theorem updateConfiguration_params
    {change : ReserveConfigurationMap → Result ReserveConfigurationMap}
    (h : pool.updateConfiguration asset change = .ok pool') (a : Address) :
    ∃ config', change (pool.reserves asset).configuration = .ok config' ∧
      (pool'.reserves a).configuration.getParams =
        if asset = a then config'.getParams else (pool.reserves a).configuration.getParams := by
  simp only [updateConfiguration, bind_eq_ok, pure_eq_ok] at h
  obtain ⟨config', hchange, rfl⟩ := h
  refine ⟨config', hchange, ?_⟩
  by_cases ha : asset = a
  · subst ha
    simp [setConfiguration]
  · simp [setConfiguration, ha, Ne.symm ha]

theorem updateFlag_params {change : ReserveConfigurationMap → ReserveConfigurationMap}
    (changes : ∀ config, (change config).getParams = config.getParams)
    (h : pool.updateConfiguration asset (fun config => .ok (change config)) = .ok pool')
    (a : Address) : (pool'.reserves a).configuration.getParams =
      (pool.reserves a).configuration.getParams := by
  obtain ⟨config', hchange, params⟩ := updateConfiguration_params h a
  have flag := changes (pool.reserves asset).configuration
  rw [Except.ok.inj hchange] at flag
  rw [params, flag]
  split
  · rename_i ha
    rw [ha]
  · rfl

theorem listReserve_sameCollateral {input : InitReserveInput}
    (h : pool.listReserve input = .ok pool') (a : Address) :
    (pool.reserves a).configuration.SameCollateral (pool'.reserves a).configuration := by
  simp only [listReserve, initReserve, Reserve.init, requireContract, bind_eq_ok, require_eq_ok,
    pure_eq_ok] at h
  obtain ⟨_, _, _, _, _, _, added, ⟨_, _, _, ⟨_, _, rfl⟩, hadd⟩, config, hdecimals, rfl⟩ := h
  have kept : ∀ a, (added.reserves a).configuration = (pool.reserves a).configuration := by
    intro a
    obtain ⟨_, ⟨_, _, rfl⟩ | ⟨_, rfl⟩⟩ := addReserveToList_eq_ok hadd <;>
      by_cases ha : a = input.underlyingAsset <;>
      first
        | subst ha
          simp [setReserve]
        | simp [setReserve, ha]
  have written : (added.reserves input.underlyingAsset).configuration.SameCollateral
      ((config.setActive true).setFrozen false) :=
    (setDecimals_sameCollateral hdecimals).trans
      ((setActive_sameCollateral true).trans (setFrozen_sameCollateral false))
  by_cases ha : a = input.underlyingAsset
  · subst ha
    rw [← kept]
    simpa [setConfiguration] using written
  · rw [← kept]
    simpa [setConfiguration, ha] using .refl _

theorem batchInitReserve_sameCollateral {input : List InitReserveInput}
    (h : pool.batchInitReserve input = .ok pool') (a : Address) :
    (pool.reserves a).configuration.SameCollateral (pool'.reserves a).configuration := by
  induction input generalizing pool with
  | nil =>
    cases Except.ok.inj h
    exact .refl _
  | cons first rest ih =>
    simp only [batchInitReserve, bind_eq_ok] at h
    obtain ⟨middle, hfirst, hrest⟩ := h
    exact (listReserve_sameCollateral hfirst a).trans (ih hrest)

end LendingPool

open LendingPool ReserveConfigurationMap

variable {pool pool' : LendingPool} {t : Nat} {call : AdminCall} {events : List Event}

/-- Every call but a listing leaves the parameters that are not its arguments. -/
theorem AdminCall.exec_params (hlists : call.lists = false) (h : call.exec pool = .ok pool')
    (a : Address) : (pool'.reserves a).configuration.getParams =
      call.paramsAfter a (pool.reserves a).configuration.getParams := by
  cases call with
  | batchInitReserve input => cases hlists
  | configureReserveAsCollateral asset ltv liquidationThreshold liquidationBonus =>
    obtain ⟨_, _, hset⟩ := bind_eq_ok.mp h
    obtain ⟨config', hchange, params⟩ := updateConfiguration_params hset a
    simp only [bind_eq_ok] at hchange
    obtain ⟨first, h₁, second, h₂, h₃⟩ := hchange
    rw [params, setCollateral_allParams h₁ h₂ h₃, paramsAfter]
    split
    · rename_i ha
      rw [ha]
    · rfl
  | enableBorrowingOnReserve asset stableBorrowRateEnabled =>
    have hcall : pool.updateConfiguration asset (fun config => .ok ((config.setBorrowingEnabled
      true).setStableRateBorrowingEnabled stableBorrowRateEnabled)) = .ok pool' := h
    refine updateFlag_params (fun config => ?_) hcall a
    rw [setStableRateBorrowingEnabled_params, setBorrowingEnabled_params]
  | disableBorrowingOnReserve asset =>
    exact updateFlag_params (fun _ => setBorrowingEnabled_params false) h a
  | enableReserveStableRate asset =>
    exact updateFlag_params (fun _ => setStableRateBorrowingEnabled_params true) h a
  | disableReserveStableRate asset =>
    exact updateFlag_params (fun _ => setStableRateBorrowingEnabled_params false) h a
  | activateReserve asset => exact updateFlag_params (fun _ => setActive_params true) h a
  | deactivateReserve asset =>
    obtain ⟨_, _, hset⟩ := bind_eq_ok.mp h
    exact updateFlag_params (fun _ => setActive_params false) hset a
  | freezeReserve asset => exact updateFlag_params (fun _ => setFrozen_params true) h a
  | unfreezeReserve asset => exact updateFlag_params (fun _ => setFrozen_params false) h a
  | setReserveFactor asset reserveFactor =>
    have hset : pool.updateConfiguration asset (·.setReserveFactor reserveFactor) = .ok pool' := h
    obtain ⟨config', hchange, params⟩ := updateConfiguration_params hset a
    rw [params, setReserveFactor_params hchange, paramsAfter]
    split
    · rename_i ha
      rw [ha]
    · rfl

theorem AdminCall.exec_collateral (hcollateral : call.configuresCollateral = false)
    (h : call.exec pool = .ok pool') (a : Address) :
    (pool.reserves a).configuration.SameCollateral (pool'.reserves a).configuration := by
  cases hlists : call.lists with
  | true =>
    cases call with
    | batchInitReserve input => exact batchInitReserve_sameCollateral h a
    | _ => cases hlists
  | false =>
    have params := exec_params hlists h a
    cases call with
    | configureReserveAsCollateral asset ltv liquidationThreshold liquidationBonus =>
      cases hcollateral
    | setReserveFactor asset reserveFactor =>
      simp only [paramsAfter] at params
      split at params
      · exact ⟨by rw [params], by rw [params], by rw [params]⟩
      · exact ⟨by rw [params], by rw [params], by rw [params]⟩
    | _ => exact ⟨by rw [params]; rfl, by rw [params]; rfl, by rw [params]; rfl⟩

theorem AdminCall.exec_decimals (hlists : call.lists = false) (h : call.exec pool = .ok pool')
    (a : Address) : (pool'.reserves a).configuration.getParams.decimals =
      (pool.reserves a).configuration.getParams.decimals := by
  rw [exec_params hlists h a]
  unfold paramsAfter
  split
  · split <;> rfl
  · split <;> rfl
  · rfl

theorem AdminCall.exec_accepted (accepted : ∀ a, (pool.reserves a).configuration.Accepted)
    (h : call.exec pool = .ok pool') (a : Address) : (pool'.reserves a).configuration.Accepted := by
  cases hcollateral : call.configuresCollateral with
  | false => exact (accepted a).same (exec_collateral hcollateral h a)
  | true =>
    cases call with
    | configureReserveAsCollateral asset ltv liquidationThreshold liquidationBonus =>
      exact configureReserveAsCollateral_accepted accepted h a
    | _ => cases hcollateral

theorem LendingPool.Write.configuration (h : Write t events pool pool')
    (hevents : ∀ e ∈ events, e.byConfigurator = false)
    (a : Address) : (pool'.reserves a).configuration = (pool.reserves a).configuration := by
  have kept : ∀ {asset : Address} {r : Reserve},
      r.configuration = (pool.reserves asset).configuration →
      ((pool.setReserve asset r).reserves a).configuration = (pool.reserves a).configuration := by
    intro asset r hr
    exact setReserve_forall (P := fun a r' => r'.configuration = (pool.reserves a).configuration)
      hr (fun _ => rfl) a
  cases h with
  | updateState h =>
    obtain ⟨r, hr, rfl⟩ := updateState_eq_ok h
    obtain ⟨_, _, _, _, _, _, rfl, _⟩ := Reserve.updateState_eq_ok hr
    exact kept rfl
  | updateInterestRates _ h =>
    obtain ⟨r, hr, rfl⟩ := updateInterestRates_eq_ok h
    obtain ⟨_, _, rfl⟩ := Reserve.updateInterestRates_eq_ok hr
    exact kept rfl
  | cumulateToLiquidityIndex h =>
    obtain ⟨_, _, rfl⟩ := cumulateToLiquidityIndex_eq_ok h
    exact kept rfl
  | setUsingAsCollateral _ h =>
    obtain ⟨_, _, rfl⟩ := setUsingAsCollateral_eq_ok h
    rfl
  | setBorrowing _ h =>
    obtain ⟨_, _, rfl⟩ := setBorrowing_eq_ok h
    rfl
  | setToken _ asset token => rfl
  | setELToken _ => exact kept rfl
  | mintVariableDebt h =>
    obtain ⟨_, _, rfl⟩ := mintVariableDebt_eq_ok h
    exact kept rfl
  | burnVariableDebt h =>
    obtain ⟨_, _, rfl⟩ := burnVariableDebt_eq_ok h
    exact kept rfl
  | mintStableDebt _ h =>
    obtain ⟨_, _, rfl⟩ := mintStableDebt_eq_ok h
    exact kept rfl
  | burnStableDebt _ h =>
    obtain ⟨_, _, rfl⟩ := burnStableDebt_eq_ok h
    exact kept rfl
  | approveStableDelegation _ msgSender asset delegatee amount => exact kept rfl
  | approveVariableDelegation _ msgSender asset delegatee amount => exact kept rfl
  | listReserve h => cases hevents _ (List.mem_singleton_self _)
  | setConfiguration _ asset configuration => cases hevents _ (List.mem_singleton_self _)
  | setReserveInterestRateStrategy _ asset strategy => exact kept rfl
  | setWorld _ paused priceOracle lendingRateOracle => rfl

theorem LendingPool.Writes.configuration (h : Writes t events pool pool')
    (hevents : ∀ e ∈ events, e.byConfigurator = false)
    (a : Address) : (pool'.reserves a).configuration = (pool.reserves a).configuration := by
  induction h with
  | refl => rfl
  | tail _ last ih =>
    have first := ih fun e he => hevents e (List.mem_append_left _ he)
    exact (last.configuration (fun e he => hevents e (List.mem_append_right _ he)) a).trans first

theorem Call.events_of_user {msgSender : Address} {call : Call} {e : Event}
    (hlist : ∀ input, call ≠ .listReserve input)
    (hset : ∀ asset configuration, call ≠ .setConfiguration asset configuration)
    (he : e ∈ call.events msgSender) : e.byConfigurator = false := by
  cases call with
  | borrow asset amount interestRateMode onBehalfOf =>
    simp only [Call.events] at he
    split at he
    · unfold Event.openedBy at he
      split at he
      · simp at he
      · rw [List.mem_singleton.mp he]
        rfl
    · simp at he
  | approveStableDelegation asset delegatee amount =>
    rw [List.mem_singleton.mp he]
    rfl
  | approveVariableDelegation asset delegatee amount =>
    rw [List.mem_singleton.mp he]
    rfl
  | listReserve input => exact absurd rfl (hlist input)
  | setConfiguration asset configuration => exact absurd rfl (hset asset configuration)
  | _ => simp [Call.events] at he

theorem Steps.configuration (run : Steps userRules t pool pool') (a : Address) :
    (pool'.reserves a).configuration = (pool.reserves a).configuration := by
  have calls : ∀ (pool : LendingPool) (msgSender : Address) (call : Call),
      userRules.call pool msgSender call → ∀ e ∈ call.events msgSender,
        e.byConfigurator = false := by
    intro pool msgSender call allowed e he
    obtain ⟨hlist, hset⟩ := allowed
    exact Call.events_of_user hlist hset he
  obtain ⟨events, writes, hevents⟩ :=
    run.writes_of (fun e => e.byConfigurator = false) calls (fun _ _ _ _ _ => rfl)
  exact writes.configuration hevents a

/-- The relations between the collateral parameters of a configuration. -/
structure ReserveConfigurationMap.InOrder (config : ReserveConfigurationMap) : Prop where
  ltv_le : config.getParams.ltv ≤ config.getParams.liquidationThreshold
  bonus_gt : config.getParams.liquidationThreshold ≠ 0 →
    PERCENTAGE_FACTOR < config.getParams.liquidationBonus
  product_le : config.getParams.liquidationThreshold ≠ 0 →
    ∃ product, percentMul config.getParams.liquidationThreshold config.getParams.liquidationBonus =
      .ok product ∧ product ≤ PERCENTAGE_FACTOR
  threshold_lt : config.getParams.liquidationThreshold < PERCENTAGE_FACTOR
  no_collateral : config.getParams.liquidationThreshold = 0 →
    config.getParams.ltv = 0 ∧ config.getParams.liquidationBonus = 0

theorem ReserveConfigurationMap.Accepted.inOrder {config : ReserveConfigurationMap}
    (h : config.Accepted) : config.InOrder where
  ltv_le := h.ltv_le
  bonus_gt := h.bonus_gt
  product_le hne := by
    have product := h.product_le hne
    have high := HalfUp.lt_mul_succ
      (config.getParams.liquidationThreshold * config.getParams.liquidationBonus)
      (show 0 < PERCENTAGE_FACTOR by decide)
    have small : PERCENTAGE_FACTOR * (halfUp (config.getParams.liquidationThreshold *
        config.getParams.liquidationBonus) PERCENTAGE_FACTOR + 1) ≤
          PERCENTAGE_FACTOR * (PERCENTAGE_FACTOR + 1) :=
      Nat.mul_le_mul_left _ (Nat.succ_le_succ product)
    have fits : PERCENTAGE_FACTOR * (PERCENTAGE_FACTOR + 1) ≤ uint256Max := by decide
    have half : HALF_PERCENT = PERCENTAGE_FACTOR / 2 := rfl
    exact ⟨_, percentMul_eq_ok.mpr ⟨by omega, rfl⟩, product⟩
  threshold_lt := h.threshold_lt
  no_collateral hz := by
    have ltv_le := h.ltv_le
    exact ⟨by omega, h.bonus_zero hz⟩

theorem AdminReachable.accepted (h : AdminReachable pool) :
    ∀ a, (pool.reserves a).configuration.Accepted := by
  induction h with
  | start this tokens priceOracle lendingRateOracle isContract =>
    intro a
    show (⟨0⟩ : ReserveConfigurationMap).Accepted
    decide +kernel
  | admin _ call success ih => exact AdminCall.exec_accepted ih success
  | users _ t steps ih =>
    intro a
    rw [steps.configuration a]
    exact ih a

/-- Over every run of the configurator: the collateral parameters of every reserve are in order, and
each call changes only what it is for. -/
theorem configurations_in_order (reachable : AdminReachable pool) :
    (∀ asset, (pool.reserves asset).configuration.InOrder) ∧
      ∀ (call : AdminCall) pool', call.exec pool = .ok pool' → ∀ asset,
        (call.configuresCollateral = false →
          (pool.reserves asset).configuration.SameCollateral
            (pool'.reserves asset).configuration) ∧
        (call.lists = false → (pool'.reserves asset).configuration.getParams.decimals =
          (pool.reserves asset).configuration.getParams.decimals) :=
  ⟨fun asset => (AdminReachable.accepted reachable asset).inOrder, fun _ _ h asset =>
    ⟨fun hcollateral => AdminCall.exec_collateral hcollateral h asset,
      fun hlists => AdminCall.exec_decimals hlists h asset⟩⟩

/-- Two reserves are listed, and weth is configured with the largest threshold for its bonus. -/
theorem configured_market_in_order :
    ∃ listed configured pool,
      AdminCall.exec Market.genesis
        (.batchInitReserve [Market.listing Market.weth, Market.listing Market.dai]) = .ok listed ∧
      AdminCall.exec listed (.configureReserveAsCollateral Market.weth 8000 9523 10501) =
        .ok configured ∧
      AdminCall.exec configured (.setReserveFactor Market.weth 1000) = .ok pool ∧
      (pool.reserves Market.weth).configuration.InOrder ∧
      (pool.reserves Market.weth).configuration.getParams.decimals = 18 := by
  have script : succeedsWith (do
      let listed ← AdminCall.exec Market.genesis
        (.batchInitReserve [Market.listing Market.weth, Market.listing Market.dai])
      let configured ←
        AdminCall.exec listed (.configureReserveAsCollateral Market.weth 8000 9523 10501)
      AdminCall.exec configured (.setReserveFactor Market.weth 1000))
      (fun pool => (pool.reserves Market.weth).configuration.getParams.decimals == 18) = true := by
    decide +kernel
  obtain ⟨pool, hrun, hdecimals⟩ := succeedsWith_iff.mp script
  simp only [bind_eq_ok] at hrun
  obtain ⟨listed, hlist, configured, hconfigure, hfactor⟩ := hrun
  have reachable : AdminReachable pool :=
    .admin (.admin (.admin (.start _ _ _ _ _) _ hlist) _ hconfigure) _ hfactor
  have inOrder := (configurations_in_order reachable).1 Market.weth
  exact ⟨listed, configured, pool, hlist, hconfigure, hfactor, inOrder, eq_of_beq hdecimals⟩

end ElectroLend
