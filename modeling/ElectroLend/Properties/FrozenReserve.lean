import ElectroLend.Configuration.FieldLayout
import ElectroLend.Pool.SameButFlags
import ElectroLend.Properties.AdminRuns
import ElectroLend.Properties.PassiveDebt

namespace ElectroLend

open Outcome LendingPool

/-- The calls that open a reserve to new business or close it. -/
inductive AdminCall.Switches (asset : Address) : AdminCall → Prop
  | enableBorrowing (stable : Bool) : Switches asset (.enableBorrowingOnReserve asset stable)
  | disableBorrowing : Switches asset (.disableBorrowingOnReserve asset)
  | enableStableRate : Switches asset (.enableReserveStableRate asset)
  | disableStableRate : Switches asset (.disableReserveStableRate asset)
  | freeze : Switches asset (.freezeReserve asset)
  | unfreeze : Switches asset (.unfreezeReserve asset)

namespace ReserveConfigurationMap

variable {self : ReserveConfigurationMap}

theorem write_getActive {f : ConfigurationField} (hf : f ≠ .active) {value : Nat}
    (hv : value < 2 ^ f.width) : (self.write f.mask f.start value).getActive = self.getActive := by
  have stored : (self.write f.mask f.start value).getter .active = self.getter .active := by
    rw [getter_eq_stored, getter_eq_stored, write_stored hv, if_neg hf.symm]
  rw [Bool.eq_iff_iff, ← Bool.toNat_eq_one, ← Bool.toNat_eq_one]
  exact iff_of_eq (congrArg (· = 1) stored)

theorem setFrozen_getActive (frozen : Bool) : (self.setFrozen frozen).getActive = self.getActive :=
  write_getActive (f := .frozen) (by decide) (bool_toNat_lt frozen)

theorem setBorrowingEnabled_getActive (enabled : Bool) :
    (self.setBorrowingEnabled enabled).getActive = self.getActive :=
  write_getActive (f := .borrowing) (by decide) (bool_toNat_lt enabled)

theorem setStableRateBorrowingEnabled_getActive (enabled : Bool) :
    (self.setStableRateBorrowingEnabled enabled).getActive = self.getActive :=
  write_getActive (f := .stableBorrowing) (by decide) (bool_toNat_lt enabled)

end ReserveConfigurationMap

open ReserveConfigurationMap

variable {pool pool' : LendingPool} {t t' amount : Nat} {asset u msgSender : Address}

theorem setConfiguration_sameButFlags {c : ReserveConfigurationMap}
    (params : c.getParams = (pool.reserves asset).configuration.getParams)
    (active : c.getActive = (pool.reserves asset).configuration.getActive) :
    pool.SameButFlags asset (pool.setConfiguration asset c) := by
  refine .mk _ fun a => ?_
  by_cases ha : a = asset
  · subst ha
    rw [Function.update_self]
    exact .mk c params active fun no => absurd rfl no
  · rw [Function.update_of_ne ha]
    exact .refl _

theorem AdminCall.Switches.sameButFlags {switch : AdminCall} (switches : switch.Switches asset)
    (h : switch.exec pool = .ok pool') : pool.SameButFlags asset pool' := by
  cases switches with
  | enableBorrowing stable =>
    obtain rfl := Except.ok.inj h
    refine setConfiguration_sameButFlags ?_ ?_
    · rw [setStableRateBorrowingEnabled_params, setBorrowingEnabled_params]
    · rw [setStableRateBorrowingEnabled_getActive, setBorrowingEnabled_getActive]
  | disableBorrowing =>
    obtain rfl := Except.ok.inj h
    exact setConfiguration_sameButFlags (setBorrowingEnabled_params _)
      (setBorrowingEnabled_getActive _)
  | enableStableRate =>
    obtain rfl := Except.ok.inj h
    exact setConfiguration_sameButFlags (setStableRateBorrowingEnabled_params _)
      (setStableRateBorrowingEnabled_getActive _)
  | disableStableRate =>
    obtain rfl := Except.ok.inj h
    exact setConfiguration_sameButFlags (setStableRateBorrowingEnabled_params _)
      (setStableRateBorrowingEnabled_getActive _)
  | freeze =>
    obtain rfl := Except.ok.inj h
    exact setConfiguration_sameButFlags (setFrozen_params _) (setFrozen_getActive _)
  | unfreeze =>
    obtain rfl := Except.ok.inj h
    exact setConfiguration_sameButFlags (setFrozen_params _) (setFrozen_getActive _)

/-- The call is no new business in the asset, and does not configure or list it. -/
def Call.NoNewBusiness (asset : Address) : Call → Prop
  | deposit a _ _ | borrow a _ _ _ | swapBorrowRateMode a _ | setConfiguration a _ => a ≠ asset
  | listReserve input => input.underlyingAsset ≠ asset
  | _ => True

theorem Call.exec_alike (same : pool.SameButFlags asset pool') {call : Call}
    (rule : call.NoNewBusiness asset) :
    Alike (SameButFlags asset) (call.exec t msgSender pool) (call.exec t msgSender pool') := by
  cases call with
  | deposit a amount onBehalfOf => exact same.deposit rule
  | withdraw a amount recipient =>
    refine same.withdraw.map ?_
    rintro _ _ ⟨_, same⟩
    exact same
  | borrow a amount interestRateMode onBehalfOf => exact same.borrow rule
  | repay a amount rateMode onBehalfOf =>
    refine same.repay.map ?_
    rintro _ _ ⟨_, same⟩
    exact same
  | swapBorrowRateMode a rateMode => exact same.swapBorrowRateMode rule
  | rebalanceStableBorrowRate a user => exact same.rebalanceStableBorrowRate
  | setUserUseReserveAsCollateral a useAsCollateral => exact same.setUserUseReserveAsCollateral
  | liquidationCall collateralAsset debtAsset user debtToCover receiveLToken =>
    exact same.liquidationCall
  | elTokenTransfer a recipient amount => exact same.elTokenTransfer
  | elTokenTransferFrom a sender recipient amount => exact same.elTokenTransferFrom
  | elTokenApprove a spender amount => exact same.elTokenApprove
  | approveStableDelegation a delegatee amount => exact .ok same.approveStableDelegation
  | approveVariableDelegation a delegatee amount => exact .ok same.approveVariableDelegation
  | approve a spender amount => exact same.callToken (·.approve msgSender spender amount)
  | transfer a recipient amount => exact same.callToken (·.transfer msgSender recipient amount)
  | transferFrom a sender recipient amount =>
    exact same.callToken (·.transferFrom msgSender sender recipient amount)
  | listReserve input => exact same.listReserve rule
  | setConfiguration a configuration => exact .ok (same.setConfiguration configuration)
  | setReserveInterestRateStrategy a strategy =>
    exact .ok (same.setReserveInterestRateStrategy strategy)
  | setPause val =>
    obtain ⟨reserves, same⟩ := same
    exact .ok (.mk _ same)
  | setAssetPrice a price =>
    obtain ⟨reserves, same⟩ := same
    exact .ok (.mk _ same)
  | setMarketBorrowRate a rate =>
    obtain ⟨reserves, same⟩ := same
    exact .ok (.mk _ same)

/-- Calls without new business in the asset have the same answers in both pools. -/
theorem LendingPool.SameButFlags.sendAll (same : pool.SameButFlags asset pool')
    {calls : List TimedCall} (old : ∀ sent ∈ calls, sent.2.2.NoNewBusiness asset) :
    (pool'.sendAll calls).1 = (pool.sendAll calls).1 ∧
      (pool.sendAll calls).2.SameButFlags asset (pool'.sendAll calls).2 := by
  induction calls generalizing pool pool' with
  | nil => exact ⟨rfl, same⟩
  | cons sent rest ih =>
    obtain ⟨t, msgSender, call⟩ := sent
    have rule : call.NoNewBusiness asset := old _ List.mem_cons_self
    obtain ⟨answer, next⟩ := sendCall_alike same (Call.exec_alike same rule)
    obtain ⟨answers, last⟩ := ih next fun sent hsent => old sent (List.mem_cons_of_mem _ hsent)
    have first : ((t, msgSender, call), (pool'.sendCall (t, msgSender, call)).1) =
        ((t, msgSender, call), (pool.sendCall (t, msgSender, call)).1) := by rw [answer]
    exact ⟨congrArg₂ List.cons first answers, last⟩

/-- Freezing a reserve, or closing it to loans, stands in nobody's way out: whatever is sent without
new business in it goes through or fails in the same way with the switch thrown, call by call, and
leaves the same balances, debts, indexes and bits. The same holds of unfreezing and opening it. -/
theorem switches_hinder_nobody {switch : AdminCall} (switches : switch.Switches asset)
    (switched : switch.exec pool = .ok pool') {calls : List TimedCall}
    (old : ∀ sent ∈ calls, sent.2.2.NoNewBusiness asset) :
    (pool'.sendAll calls).1 = (pool.sendAll calls).1 ∧
      (pool.sendAll calls).2.SameButFlags asset (pool'.sendAll calls).2 :=
  (switches.sameButFlags switched).sendAll old

/-- The reserve is listed and frozen, and the account owes it at most `owed` scaled units of variable
debt and no stable debt. -/
structure LendingPool.WindsDown (pool : LendingPool) (asset u : Address) (owed : Nat) : Prop where
  initialised : (pool.reserves asset).elTokenAddress ≠ 0
  frozen : (pool.reserves asset).configuration.getFlags.isFrozen = true
  scaled : (pool.reserves asset).variableDebtToken.balances u ≤ owed
  principal : (pool.reserves asset).stableDebtToken.balances u = 0

/-- What may still be done to the reserve. -/
def Deed.InFreeze (asset : Address) : Deed → Prop
  | mintDebt a _ _ _ | configure a => a ≠ asset
  | _ => True

variable {owed : Nat}

theorem LendingPool.WindsDown.setReserve (winds : pool.WindsDown asset u owed) {a : Address}
    {r : Reserve} (address : r.elTokenAddress = (pool.reserves a).elTokenAddress)
    (configuration : asset = a → r.configuration = (pool.reserves a).configuration)
    (scaled : asset = a → r.variableDebtToken.balances u ≤ owed)
    (principal : asset = a → r.stableDebtToken.balances u = 0) :
    (pool.setReserve a r).WindsDown asset u owed := by
  by_cases ha : asset = a
  · subst ha
    refine ⟨?_, ?_, by simpa using scaled rfl, by simpa using principal rfl⟩
    · simpa [address] using winds.initialised
    · simpa [configuration rfl] using winds.frozen
  · exact ⟨by simpa [ha] using winds.initialised, by simpa [ha] using winds.frozen,
      by simpa [ha] using winds.scaled, by simpa [ha] using winds.principal⟩

theorem Did.windsDown {deed : Deed} (h : Did t deed pool pool') (fine : deed.InFreeze asset)
    (winds : pool.WindsDown asset u owed) : pool'.WindsDown asset u owed := by
  have kept : ∀ {a : Address} {r : Reserve},
      r.elTokenAddress = (pool.reserves a).elTokenAddress →
      (asset = a → r.configuration = (pool.reserves a).configuration) →
      r.variableDebtToken = (pool.reserves a).variableDebtToken →
      r.stableDebtToken = (pool.reserves a).stableDebtToken →
      (pool.setReserve a r).WindsDown asset u owed := by
    intro a r address configuration hv hs
    exact winds.setReserve address configuration
      (fun ha => by rw [hv, ← ha]; exact winds.scaled)
      (fun ha => by rw [hs, ← ha]; exact winds.principal)
  cases h with
  | updateState h =>
    obtain ⟨r, hr, rfl⟩ := updateState_eq_ok h
    obtain ⟨_, _, _, _, _, _, rfl, _⟩ := Reserve.updateState_eq_ok hr
    exact kept rfl (fun _ => rfl) rfl rfl
  | updateInterestRates h =>
    obtain ⟨r, hr, rfl⟩ := updateInterestRates_eq_ok h
    obtain ⟨_, _, rfl⟩ := Reserve.updateInterestRates_eq_ok hr
    exact kept rfl (fun _ => rfl) rfl rfl
  | cumulateToLiquidityIndex h =>
    obtain ⟨_, _, rfl⟩ := cumulateToLiquidityIndex_eq_ok h
    exact kept rfl (fun _ => rfl) rfl rfl
  | mintELToken h =>
    obtain ⟨_, _, rfl⟩ := mintELToken_eq_ok h
    exact kept rfl (fun _ => rfl) rfl rfl
  | @burnELToken _ _ a _ _ _ h =>
    obtain ⟨elToken, _, _, rfl⟩ := burnELToken_eq_ok h
    have burned : (pool.setReserve a { pool.reserves a with elToken }).WindsDown asset u owed :=
      kept rfl (fun _ => rfl) rfl rfl
    exact ⟨burned.initialised, burned.frozen, burned.scaled, burned.principal⟩
  | moveELToken _ => exact kept rfl (fun _ => rfl) rfl rfl
  | spendELToken _ _ _ => exact kept rfl (fun _ => rfl) rfl rfl
  | approveELToken _ => exact kept rfl (fun _ => rfl) rfl rfl
  | lowerELTokenAllowance _ _ => exact kept rfl (fun _ => rfl) rfl rfl
  | mintVariableDebt h =>
    obtain ⟨_, hm, rfl⟩ := mintVariableDebt_eq_ok h
    exact winds.setReserve rfl (fun _ => rfl) (fun ha => (fine ha.symm).elim)
      (fun ha => ha ▸ winds.principal)
  | mintStableDebt nonzero h =>
    obtain ⟨_, hm, rfl⟩ := mintStableDebt_eq_ok h
    exact winds.setReserve rfl (fun _ => rfl) (fun ha => ha ▸ winds.scaled)
      (fun ha => (fine ha.symm).elim)
  | burnVariableDebt h =>
    obtain ⟨_, hb, rfl⟩ := burnVariableDebt_eq_ok h
    exact winds.setReserve rfl (fun _ => rfl)
      (fun ha => (VariableDebtToken.burn_scaled_le hb).trans (ha ▸ winds.scaled))
      (fun ha => ha ▸ winds.principal)
  | burnStableDebt h =>
    obtain ⟨_, hb, rfl⟩ := burnStableDebt_eq_ok h
    exact winds.setReserve rfl (fun _ => rfl) (fun ha => ha ▸ winds.scaled)
      (fun ha => StableDebtToken.burn_principal_zero (ha ▸ winds.principal) hb)
  | @convertStableDebt _ _ _ a user _ _ _ read burned minted =>
    have nonzero := mintVariableDebt_amount minted
    obtain ⟨stableDebtToken, hb, rfl⟩ := burnStableDebt_eq_ok burned
    obtain ⟨variableDebtToken, hm, rfl⟩ := mintVariableDebt_eq_ok minted
    have after : (pool.setReserve a { pool.reserves a with stableDebtToken }).WindsDown asset u owed :=
      winds.setReserve rfl (fun _ => rfl) (fun ha => ha ▸ winds.scaled)
        (fun ha => StableDebtToken.burn_principal_zero (ha ▸ winds.principal) hb)
    refine after.setReserve rfl (fun _ => rfl) (fun ha => ?_) (fun ha => ha ▸ after.principal)
    subst ha
    -- an account without stable debt has nothing to convert
    have hu : u ≠ user := by
      rintro rfl
      rw [StableDebtToken.balanceOf_zero winds.principal] at read
      exact nonzero (Except.ok.inj read).symm
    obtain ⟨_, _, _, hbalances, _⟩ := VariableDebtToken.mint_eq_ok hm
    rw [hbalances, Function.update_of_ne hu]
    exact after.scaled
  | approveStableDelegation _ msgSender a delegatee amount =>
    exact winds.setReserve rfl (fun _ => rfl) (fun ha => ha ▸ winds.scaled)
      (fun ha => ha ▸ winds.principal)
  | approveVariableDelegation _ msgSender a delegatee amount =>
    exact winds.setReserve rfl (fun _ => rfl) (fun ha => ha ▸ winds.scaled)
      (fun ha => ha ▸ winds.principal)
  | setUsingAsCollateral h =>
    obtain ⟨_, _, rfl⟩ := setUsingAsCollateral_eq_ok h
    exact ⟨winds.initialised, winds.frozen, winds.scaled, winds.principal⟩
  | setBorrowing h =>
    obtain ⟨_, _, rfl⟩ := setBorrowing_eq_ok h
    exact ⟨winds.initialised, winds.frozen, winds.scaled, winds.principal⟩
  | pull h =>
    obtain ⟨_, _, rfl⟩ := pullUnderlying_eq_ok h
    exact ⟨winds.initialised, winds.frozen, winds.scaled, winds.principal⟩
  | pay h =>
    obtain ⟨_, _, rfl⟩ := transferUnderlyingTo_eq_ok h
    exact ⟨winds.initialised, winds.frozen, winds.scaled, winds.principal⟩
  | sendToken _ => exact ⟨winds.initialised, winds.frozen, winds.scaled, winds.principal⟩
  | spendToken _ => exact ⟨winds.initialised, winds.frozen, winds.scaled, winds.principal⟩
  | approveToken _ => exact ⟨winds.initialised, winds.frozen, winds.scaled, winds.principal⟩
  | @listReserve _ _ input h =>
    obtain ⟨new, _, _, hreserves⟩ := listReserve_reserves h
    have ha : asset ≠ input.underlyingAsset := fun ha => winds.initialised (ha ▸ new)
    exact ⟨by simpa [hreserves, ha] using winds.initialised,
      by simpa [hreserves, ha] using winds.frozen, by simpa [hreserves, ha] using winds.scaled,
      by simpa [hreserves, ha] using winds.principal⟩
  | setConfiguration _ a configuration => exact kept rfl (fun ha => (fine ha.symm).elim) rfl rfl
  | setReserveInterestRateStrategy _ a strategy => exact kept rfl (fun _ => rfl) rfl rfl
  | setPause _ val => exact ⟨winds.initialised, winds.frozen, winds.scaled, winds.principal⟩
  | setPrices _ priceOracle lendingRateOracle =>
    exact ⟨winds.initialised, winds.frozen, winds.scaled, winds.principal⟩

theorem LendingPool.validateBorrow_unfrozen {value mode : Nat}
    (h : pool.validateBorrow t asset u amount value mode = .ok ()) :
    (pool.reserves asset).configuration.getFlags.isFrozen ≠ true := by
  simp only [validateBorrow, bind_eq_ok, require_eq_ok] at h
  obtain ⟨_, _, _, running, _⟩ := h
  simpa using running

theorem Call.exec_inFreeze {call : Call} (winds : pool.WindsDown asset u owed)
    (kept : ∀ configuration, call ≠ .setConfiguration asset configuration)
    (h : call.exec t msgSender pool = .ok pool') {deed : Deed}
    (hdeed : deed ∈ call.deeds pool msgSender) : deed.InFreeze asset := by
  cases call with
  | borrow a amount interestRateMode onBehalfOf =>
    obtain ⟨_, _, hborrow⟩ := bind_eq_ok.mp h
    obtain ⟨_, _, _, _, _, hvalid, _⟩ := executeBorrow_eq_ok hborrow
    have ha : a ≠ asset := fun ha => validateBorrow_unfrozen hvalid (ha ▸ winds.frozen)
    simp only [Call.deeds, List.mem_cons, List.not_mem_nil, or_false] at hdeed
    rcases hdeed with rfl | rfl | rfl | rfl | rfl
    all_goals first | exact ha | trivial
  | swapBorrowRateMode a rateMode =>
    have ha : a ≠ asset := by
      rintro rfl
      simp only [Call.exec, LendingPool.swapBorrowRateMode, validateSwapRateMode, bind_eq_ok,
        require_eq_ok,
        Prod.exists] at h
      obtain ⟨_, _, _, _, _, _, _, _, ⟨_, _, _, running, _⟩, _⟩ := h
      simp [winds.frozen] at running
    simp only [Call.deeds, List.mem_cons, List.not_mem_nil, or_false] at hdeed
    rcases hdeed with rfl | rfl | rfl | rfl | rfl
    all_goals first | exact ha | trivial
  | setConfiguration a configuration =>
    obtain rfl := List.mem_singleton.mp hdeed
    rintro rfl
    exact kept configuration rfl
  | _ =>
    simp only [Call.deeds, List.mem_cons, List.not_mem_nil, or_false] at hdeed
    rcases hdeed with rfl | rfl | rfl | rfl | rfl | rfl | rfl | rfl | rfl
    all_goals trivial

/-- An entry in the frozen asset can only be returned. -/
theorem settleFlashLoan_inFreeze {receiver onBehalfOf : Address} {entries : List FlashLoanEntry}
    {modes : List Nat} (winds : pool.WindsDown asset u owed)
    (h : pool.settleFlashLoan t .lendingPool msgSender receiver onBehalfOf entries modes =
      .ok pool') : Deeds t (Deed.InFreeze asset) pool pool' := by
  induction entries generalizing pool modes with
  | nil =>
    cases Except.ok.inj h
    exact .refl _
  | cons entry entries ih =>
    obtain ⟨mode, rest, middle, rfl, hentry, hrest⟩ := settleFlashLoan_cons h
    have first : Deeds t (Deed.InFreeze asset) pool middle := by
      obtain ⟨rateMode, _, ⟨_, hreturn⟩ | ⟨_, hborrow⟩⟩ := settleFlashLoanEntry_eq_ok hentry
      · obtain ⟨p₁, p₂, p₃, h₁, h₂, h₃, hpull⟩ := returnFlashLoan_pulls hreturn
        have accrued : Deeds t (Deed.InFreeze asset) pool p₁ := (Did.updateState h₁).deeds trivial
        have credited := accrued.tail (by trivial) (.cumulateToLiquidityIndex h₂)
        have rated := credited.tail (by trivial) (.updateInterestRates h₃)
        exact rated.tail (by trivial) (.pull hpull)
      · obtain ⟨_, _, _, _, _, hvalid, _⟩ := executeBorrow_eq_ok hborrow
        have ha : entry.asset ≠ asset :=
          fun ha => validateBorrow_unfrozen hvalid (ha ▸ winds.frozen)
        refine executeBorrow_deeds ?_ ?_ ?_ ?_ ?_ hborrow
        all_goals first | exact ha | simp [Deed.InFreeze]
    have windsMiddle := first.invariant _
      (fun _ _ _ fine holds did => Did.windsDown did fine holds) winds
    exact first.trans (ih windsMiddle hrest)

/-- The configuration of the reserve is not written. -/
def Rules.keeping (asset : Address) : Rules where
  call _ _ call := ∀ configuration, call ≠ .setConfiguration asset configuration
  flashLoan _ _ _ := True

theorem windsDown_invariant (asset u : Address) (owed : Nat) :
    RuledInvariant (.keeping asset) fun _ pool => pool.WindsDown asset u owed where
  later _ _ _ _ winds := winds
  call _ _ _ _ _ _ kept success winds :=
    (Call.exec_deeds success).invariant _ (fun _ _ _ hdeed holds did =>
      did.windsDown (Call.exec_inFreeze winds kept success hdeed) holds) winds
  send t _ _ _ _ _ _ _ _ sending winds := by
    refine (sendFlashLoan_deeds (t := t) sending).invariant (·.WindsDown asset u owed)
      (fun _ _ _ hdeed holds did => ?_) winds
    obtain ⟨_, rfl⟩ := hdeed
    exact did.windsDown trivial holds
  settle _ _ _ _ _ _ _ _ _ _ _ _ _ settling winds :=
    (settleFlashLoan_inFreeze winds settling).invariant _
      (fun _ _ _ fine holds did => did.windsDown fine holds) winds

/-- Whoever calls, flash loans included: as long as the configuration of a frozen reserve stands, no
account without stable debt gets any, and its scaled variable debt does not grow. -/
theorem frozen_debt_winds_down
    (frozen : (pool.reserves asset).configuration.getFlags.isFrozen = true)
    (initialised : (pool.reserves asset).elTokenAddress ≠ 0)
    (noStable : (pool.reserves asset).stableDebtToken.principalBalanceOf u = 0)
    (after : VisitedAfter (.keeping asset) t pool t' pool') :
    (pool'.reserves asset).configuration.getFlags.isFrozen = true ∧
      (pool'.reserves asset).stableDebtToken.principalBalanceOf u = 0 ∧
      (pool'.reserves asset).variableDebtToken.scaledBalanceOf u ≤
        (pool.reserves asset).variableDebtToken.scaledBalanceOf u := by
  have winds := (windsDown_invariant asset u _).visitedAfter after
    ⟨initialised, frozen, Nat.le_refl _, noStable⟩
  exact ⟨winds.frozen, winds.principal, winds.scaled⟩

/-- Alice owes weth at the variable rate. -/
def loanMarket : LendingPool :=
  Market.endState (Market.setup 1000 ++
    [(1, Market.bob, .deposit Market.weth (10 ^ 20) Market.bob),
      (2, Market.alice, .deposit Market.dai (10 ^ 20) Market.alice),
      (3, Market.alice, .borrow Market.weth (4 * 10 ^ 19) 2 Market.alice)])

def frozenMarket : LendingPool :=
  loanMarket.setConfiguration Market.weth
    ((loanMarket.reserves Market.weth).configuration.setFrozen true)

/-- Alice repays, bob withdraws, and carol tries to liquidate alice. -/
def afterFreeze : List TimedCall :=
  [(4, Market.alice, .repay Market.weth (10 ^ 19) 2 Market.alice),
    (5, Market.bob, .withdraw Market.weth (10 ^ 19) Market.bob),
    (5, Market.carol, .liquidationCall Market.dai Market.weth Market.alice (10 ^ 19) false)]

theorem loanMarket_switches_hinder_nobody :
    (loanMarket.sendAll afterFreeze).1.map (fun sent => sent.2.isOk) = [true, true, false] ∧
      (frozenMarket.sendAll afterFreeze).1 = (loanMarket.sendAll afterFreeze).1 ∧
      (loanMarket.sendAll afterFreeze).2.SameButFlags Market.weth
        (frozenMarket.sendAll afterFreeze).2 := by
  have frozen : (AdminCall.freezeReserve Market.weth).exec loanMarket = .ok frozenMarket := rfl
  have old : ∀ sent ∈ afterFreeze, sent.2.2.NoNewBusiness Market.weth := by
    simp [afterFreeze, Call.NoNewBusiness]
  exact ⟨by decide +kernel, switches_hinder_nobody .freeze frozen old⟩

/-- Alice repays a part of it. -/
theorem frozenMarket_debt_winds_down :
    ∃ pool', VisitedAfter (.keeping Market.weth) 3 frozenMarket 2592003 pool' ∧
      (pool'.reserves Market.weth).configuration.getFlags.isFrozen = true ∧
      (pool'.reserves Market.weth).stableDebtToken.principalBalanceOf Market.alice = 0 ∧
      (pool'.reserves Market.weth).variableDebtToken.scaledBalanceOf Market.alice ≤
        (frozenMarket.reserves Market.weth).variableDebtToken.scaledBalanceOf Market.alice := by
  have repaid : ((Call.repay Market.weth (10 ^ 19) 2 Market.alice).exec 2592003 Market.alice
      frozenMarket).isOk = true := by decide +kernel
  obtain ⟨pool', hcall⟩ := exists_of_isOk repaid
  have run : Steps (.keeping Market.weth) 2592003 frozenMarket pool' :=
    .call (.refl _) Market.alice _ (fun _ => by rintro ⟨⟩) hcall
  have after : VisitedAfter (.keeping Market.weth) 3 frozenMarket 2592003 pool' :=
    ⟨3, frozenMarket, .now, by decide, by decide, .between run⟩
  exact ⟨pool', after, frozen_debt_winds_down (by decide +kernel) (by decide +kernel)
    (by decide +kernel) after⟩

end ElectroLend
