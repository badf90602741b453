import ElectroLend.Lending.SameBlock
import ElectroLend.Properties.AccrualSafety
import ElectroLend.Properties.FollowRates
import ElectroLend.Properties.IndexGrowth
import ElectroLend.Properties.ListedBits

namespace ElectroLend

open Outcome

namespace LendingPool

variable {pool pool' middle : LendingPool} {t amount index added taken : Nat}
  {asset elToken receiver u v : Address}

/-- No reserve's debts are valued otherwise. -/
def SameBooks (pool pool' : LendingPool) : Prop :=
  ∀ a, (pool'.reserves a).debtBooks = (pool.reserves a).debtBooks

theorem SameBooks.refl (pool : LendingPool) : pool.SameBooks pool := fun _ => rfl

theorem SameBooks.trans (h : pool.SameBooks middle) (h' : middle.SameBooks pool') :
    pool.SameBooks pool' :=
  fun a => (h' a).trans (h a)

theorem SameBooks.setReserve {r : Reserve} (h : r.debtBooks = (pool.reserves asset).debtBooks) :
    pool.SameBooks (pool.setReserve asset r) :=
  setReserve_forall (P := fun a r' => r'.debtBooks = (pool.reserves a).debtBooks) h fun _ => rfl

end LendingPool

open LendingPool

/-- The deed does not change how debts are valued. -/
def Deed.KeepsBooks : Deed → Prop
  | upkeep _ | mintDebt _ _ _ _ | burnDebt _ _ _ | convertStableDebt _ _ | list _ _ => False
  | _ => True

section Deeds

variable {pool pool' : LendingPool} {t : Nat} {asset : Address} {part : Part} {deed : Deed}
  {allowed : Deed → Prop}

theorem Stored.sameBooks (h : Stored pool asset part pool') (holders : part.OfHolders) :
    pool.SameBooks pool' := by
  cases h with
  | elTokens elToken => exact .setReserve rfl
  | payout elToken token => exact SameBooks.setReserve (r := { pool.reserves asset with elToken }) rfl
  | bits u config => exact .refl pool
  | underlying token => exact .refl pool
  | interest _ _ _ _ _ _ _ => exact holders.elim
  | debts _ _ => exact holders.elim
  | terms _ _ => exact holders.elim

theorem Did.sameBooks (h : Did t deed pool pool') (keeps : deed.KeepsBooks) :
    pool.SameBooks pool' := by
  by_cases holders : deed.part.OfHolders
  · obtain ⟨_, stored⟩ := h.stored_inner (.of_part id holders)
    exact stored.sameBooks holders
  · cases h with
    | approveStableDelegation _ msgSender asset delegatee amount => exact .setReserve rfl
    | approveVariableDelegation _ msgSender asset delegatee amount => exact .setReserve rfl
    | setConfiguration _ asset configuration => exact .setReserve rfl
    | setReserveInterestRateStrategy _ asset strategy => exact .setReserve rfl
    | setPause _ val => exact .refl pool
    | setPrices _ priceOracle lendingRateOracle => exact .refl pool
    | _ => first | exact keeps.elim | exact absurd trivial holders

theorem Deeds.sameBooks (h : Deeds t allowed pool pool')
    (keeps : ∀ deed, allowed deed → deed.KeepsBooks) : pool.SameBooks pool' :=
  h.invariant pool.SameBooks
    (fun _ _ _ fine same did => same.trans (did.sameBooks (keeps _ fine))) (.refl pool)

end Deeds

namespace LendingPool

variable {pool pool' middle : LendingPool} {t amount index added taken : Nat}
  {asset elToken receiver u v : Address}

theorem setUsingAsCollateral_books {i : Nat} {value : Bool}
    (h : pool.setUsingAsCollateral u i value = .ok pool') : pool.SameBooks pool' :=
  (Did.setUsingAsCollateral (t := 0) h).sameBooks trivial

theorem pullUnderlying_books (h : pool.pullUnderlying asset u v amount = .ok pool') :
    pool.SameBooks pool' :=
  (Did.pull (t := 0) h).sameBooks trivial

theorem burnELToken_books (h : pool.burnELToken asset u v amount = .ok pool') :
    pool.SameBooks pool' :=
  (Did.burnELToken (t := 0) h).sameBooks trivial

theorem seizeELToken_books (h : pool.seizeELToken t v asset u amount = .ok pool') :
    pool.SameBooks pool' := by
  have deeds : Deeds t Deed.KeepsBooks pool pool' := seizeELToken_deeds trivial trivial h
  exact deeds.sameBooks fun _ keeps => keeps

theorem sendFlashLoan_books {loans : List (Address × Nat)} {entries : List FlashLoanEntry}
    (h : pool.sendFlashLoan receiver loans = .ok (entries, pool')) : pool.SameBooks pool' := by
  have deeds : Deeds 0 (loanDeeds pool) pool pool' := sendFlashLoan_deeds h
  refine deeds.sameBooks ?_
  rintro _ ⟨asset, rfl⟩
  trivial

/-- Of each reserve, either the books of the debts are the same, or the debts have been valued. -/
def KeepsValued (t : Nat) (pool pool' : LendingPool) : Prop :=
  ∀ a, (pool'.reserves a).debtBooks = (pool.reserves a).debtBooks ∨ (pool'.reserves a).Valued t

theorem SameBooks.keeps (h : pool.SameBooks pool') : KeepsValued t pool pool' := fun a => .inl (h a)

theorem KeepsValued.setReserve {r : Reserve} (h : r.debtBooks = (pool.reserves asset).debtBooks) :
    KeepsValued t pool (pool.setReserve asset r) :=
  (SameBooks.setReserve h).keeps

theorem KeepsValued.refl (t : Nat) (pool : LendingPool) : KeepsValued t pool pool :=
  (SameBooks.refl pool).keeps

theorem KeepsValued.trans (h : KeepsValued t pool middle) (h' : KeepsValued t middle pool') :
    KeepsValued t pool pool' := by
  intro a
  obtain same' | valued := h' a
  · obtain same | valued := h a
    · exact .inl (same'.trans same)
    · exact .inr (valued.congr same')
  · exact .inr valued

theorem KeepsValued.of_rates (touches : pool.TouchesOnly middle asset)
    (h : middle.updateInterestRates t asset elToken added taken = .ok pool') :
    KeepsValued t pool pool' := by
  intro a
  by_cases ha : a = asset
  · subst ha
    obtain ⟨r, hr, rfl⟩ := updateInterestRates_eq_ok h
    refine .inr ?_
    rw [setReserve_reserves, Function.update_self]
    exact Reserve.updateInterestRates_valued hr
  · rw [(updateInterestRates_touches h).reserves a ha, touches.reserves a ha]
    exact .inl rfl

theorem deposit_keepsValued {msgSender : Address}
    (h : pool.deposit t msgSender asset amount u = .ok pool') : KeepsValued t pool pool' := by
  obtain ⟨p₁, p₂, p₃, first, p₄, h₁, h₂, h₃, h₄, hbit⟩ := deposit_eq_ok h
  have rated := KeepsValued.of_rates (updateState_touches h₁) h₂
  have minted := (pullUnderlying_books h₃).trans ((Did.mintELToken (t := t) h₄).sameBooks trivial)
  obtain ⟨_, hset⟩ | ⟨_, rfl⟩ := hbit
  · exact rated.trans (minted.trans (setUsingAsCollateral_books hset)).keeps
  · exact rated.trans minted.keeps

theorem withdraw_keepsValued {msgSender : Address} {paid : Nat}
    (h : pool.withdraw t msgSender asset amount u = .ok (paid, pool')) :
    KeepsValued t pool pool' := by
  obtain ⟨_, p₁, p₂, p₃, _, _, h₁, h₂, hbit, h₄, _⟩ := withdraw_eq_ok h
  have marked : p₂.SameBooks p₃ := by
    obtain ⟨config, rfl⟩ := updateUserConfig_if hbit
    exact .refl p₂
  exact (KeepsValued.of_rates (updateState_touches h₁) h₂).trans
    (marked.trans (burnELToken_books h₄)).keeps

theorem executeBorrow_keepsValued {vars : ExecuteBorrowParams}
    (h : pool.executeBorrow t vars = .ok pool') : KeepsValued t pool pool' := by
  obtain ⟨p₁, first, p₂, p₃, p₄, _, h₁, h₂, hbit, h₄, hsend⟩ := executeBorrow_eq_ok h
  have marked : p₂.OnBooks p₃ vars.asset := by
    obtain ⟨_, hset⟩ | ⟨_, rfl⟩ := hbit
    · exact setBorrowing_onBooks hset vars.asset
    · exact .refl _ _
  have books := (updateState_onBooks h₁).trans ((mintDebt_onBooks h₂).trans marked)
  have rated := KeepsValued.of_rates books.touches h₄
  obtain ⟨_, hsend⟩ | ⟨_, rfl⟩ := hsend
  · exact rated.trans ((Did.pay (t := t) hsend).sameBooks trivial).keeps
  · exact rated

theorem repay_keepsValued {msgSender : Address} {mode paid : Nat}
    (h : pool.repay t msgSender asset amount mode u = .ok (paid, pool')) :
    KeepsValued t pool pool' := by
  obtain ⟨_, _, mode, p₁, p₂, p₃, p₄, _, _, _, _, _, h₁, h₂, h₃, _, hbit, h₅⟩ := repay_eq_ok h
  have books := (updateState_onBooks h₁).trans (burnDebt_onBooks h₂)
  have marked : p₃.SameBooks p₄ := by
    obtain ⟨_, hset⟩ | ⟨_, rfl⟩ := hbit
    · exact (Did.setBorrowing (t := t) hset).sameBooks trivial
    · exact .refl _
  exact (KeepsValued.of_rates books.touches h₃).trans
    (marked.trans (pullUnderlying_books h₅)).keeps

theorem swapBorrowRateMode_keepsValued {msgSender : Address} {mode : Nat}
    (h : pool.swapBorrowRateMode t msgSender asset mode = .ok pool') : KeepsValued t pool pool' := by
  obtain ⟨_, _, _, p₁, _, p₂, _, _, _, _, h₁, h₂, h₃⟩ := swapBorrowRateMode_eq_ok h
  exact .of_rates ((updateState_onBooks h₁).trans (swapDebt_onBooks h₂)).touches h₃

theorem rebalanceStableBorrowRate_keepsValued
    (h : pool.rebalanceStableBorrowRate t asset u = .ok pool') : KeepsValued t pool pool' := by
  obtain ⟨_, p₁, p₂, _, p₃, _, h₁, h₂, h₃, h₄⟩ := rebalanceStableBorrowRate_eq_ok h
  have books := (updateState_onBooks h₁).trans
    (((Did.burnStableDebt h₂).onBooks rfl trivial).trans (mintVariableDebt_onBooks h₃))
  exact .of_rates books.touches h₄

theorem seizeCollateral_keepsValued {receiveLToken : Bool}
    (h : pool.seizeCollateral t v asset u amount receiveLToken = .ok pool') :
    KeepsValued t pool pool' := by
  obtain ⟨_, htransfer⟩ | ⟨_, hburn⟩ := ite_eq_ok.mp h
  · exact (seizeELToken_books htransfer).keeps
  · simp only [seizeUnderlying, bind_eq_ok] at hburn
    obtain ⟨p₁, h₁, p₂, h₂, h₃⟩ := hburn
    exact (KeepsValued.of_rates (updateState_touches h₁) h₂).trans (burnELToken_books h₃).keeps

theorem liquidationCall_keepsValued {collateralAsset debtAsset : Address} {debtToCover : Nat}
    {receiveLToken : Bool} (h : pool.liquidationCall t v collateralAsset debtAsset u debtToCover
      receiveLToken = .ok pool') : KeepsValued t pool pool' := by
  obtain ⟨debt, seized, marked, hcover, _, hseize, hbit, hpull⟩ := liquidationCall_eq_ok h
  obtain ⟨_, _, _, _, accrued, burned, _, _, _, _, _, _, _, h₁, h₂, h₃⟩ := coverDebt_eq_ok hcover
  have books := (updateState_onBooks h₁).trans (burnLiquidatedDebt_onBooks h₂)
  have bits : seized.SameBooks marked := by
    obtain ⟨config, rfl⟩ := updateUserConfig_if hbit
    exact .refl seized
  exact (KeepsValued.of_rates books.touches h₃).trans ((seizeCollateral_keepsValued hseize).trans
    (bits.trans (pullUnderlying_books hpull)).keeps)

theorem listReserve_keepsValued {input : InitReserveInput}
    (h : pool.listReserve input = .ok pool') : KeepsValued t pool pool' := by
  obtain ⟨_, id, configuration, hreserves⟩ := listReserve_reserves h
  intro a
  rw [hreserves]
  by_cases ha : a = input.underlyingAsset
  · subst ha
    rw [Function.update_self]
    exact .inr (Reserve.valued_empty rfl rfl)
  · rw [Function.update_of_ne ha]
    exact .inl rfl

end LendingPool

open LendingPool

variable {pool pool' : LendingPool} {t : Nat} {msgSender asset : Address} {call : Call}
  {rules : Rules}

theorem Call.exec_keepsValued (h : call.exec t msgSender pool = .ok pool') :
    KeepsValued t pool pool' := by
  have same (keeps : ∀ deed ∈ call.deeds pool msgSender, deed.KeepsBooks) :
      KeepsValued t pool pool' := ((Call.exec_deeds h).sameBooks keeps).keeps
  cases call with
  | deposit asset amount onBehalfOf => exact deposit_keepsValued h
  | withdraw asset amount recipient =>
    obtain ⟨⟨_, _⟩, hw, rfl⟩ := map_eq_ok.mp h
    exact withdraw_keepsValued hw
  | borrow asset amount interestRateMode onBehalfOf =>
    obtain ⟨_, _, hborrow⟩ := bind_eq_ok.mp h
    exact executeBorrow_keepsValued hborrow
  | repay asset amount rateMode onBehalfOf =>
    obtain ⟨⟨_, _⟩, hr, rfl⟩ := map_eq_ok.mp h
    exact repay_keepsValued hr
  | swapBorrowRateMode asset rateMode => exact swapBorrowRateMode_keepsValued h
  | rebalanceStableBorrowRate asset user => exact rebalanceStableBorrowRate_keepsValued h
  | liquidationCall collateralAsset debtAsset user debtToCover receiveLToken =>
    exact liquidationCall_keepsValued h
  | listReserve input => exact listReserve_keepsValued h
  | _ => exact same (by simp [Call.deeds, Deed.KeepsBooks])

theorem settleFlashLoan_keepsValued {receiver onBehalfOf : Address}
    {entries : List FlashLoanEntry} {modes : List Nat}
    (h : pool.settleFlashLoan t .lendingPool msgSender receiver onBehalfOf entries modes =
      .ok pool') : KeepsValued t pool pool' := by
  induction entries generalizing pool modes with
  | nil =>
    cases Except.ok.inj h
    exact .refl t _
  | cons entry entries ih =>
    obtain ⟨mode, rest, middle, _, hentry, hrest⟩ := settleFlashLoan_cons h
    refine KeepsValued.trans ?_ (ih hrest)
    obtain ⟨_, _, ⟨_, hreturn⟩ | ⟨_, hborrow⟩⟩ := settleFlashLoanEntry_eq_ok hentry
    · obtain ⟨p₁, p₂, p₃, h₁, h₂, h₃, h₄⟩ := returnFlashLoan_pulls hreturn
      have books := (updateState_onBooks h₁).trans (cumulateToLiquidityIndex_onBooks h₂)
      exact (KeepsValued.of_rates books.touches h₃).trans (pullUnderlying_books h₄).keeps
    · exact executeBorrow_keepsValued hborrow

theorem Steps.keepsValued (run : Steps rules t pool pool') : KeepsValued t pool pool' := by
  induction run with
  | refl => exact .refl t _
  | call _ _ _ _ success ih => exact ih.trans (Call.exec_keepsValued success)
  | flashLoan _ _ _ _ _ _ _ _ _ _ success ih called =>
    obtain ⟨_, entries, sent, answer, returned, hsend, hanswer, hsettle⟩ := flashLoan_eq_ok success
    have inside := called sent answer returned hanswer
    exact ih.trans ((sendFlashLoan_books hsend).keeps.trans
      (inside.trans (settleFlashLoan_keepsValued hsettle)))

theorem Visits.keepsValued (visits : Visits rules t pool pool') : KeepsValued t pool pool' := by
  induction visits with
  | between steps => exact steps.keepsValued
  | inside before _ _ sending _ ih =>
    exact before.keepsValued.trans ((sendFlashLoan_books sending).keeps.trans ih)

/-- The reserves that the block has updated are valued. -/
def LendingPool.UpdatedValued (pool : LendingPool) (t : Nat) : Prop :=
  ∀ a, (pool.reserves a).lastUpdateTimestamp = t → (pool.reserves a).Valued t

theorem LendingPool.UpdatedValued.keeps (inv : pool.UpdatedValued t)
    (h : KeepsValued t pool pool') : pool'.UpdatedValued t := by
  intro a now
  obtain same | valued := h a
  · have last := congrArg Reserve.DebtBooks.lastUpdateTimestamp same
    exact (inv a (last.symm.trans now)).congr same
  · exact valued

theorem LendingPool.UpdatedValued.later {t' : Nat} (inv : pool.UpdatedValued t)
    (past : ∀ a, (pool.reserves a).lastUpdateTimestamp ≤ t) (hle : t ≤ t') :
    pool.UpdatedValued t' := by
  intro a now
  have htime : t' = t := Nat.le_antisymm (now ▸ past a) hle
  subst htime
  exact inv a now

theorem Reachable.updatedValued (h : Reachable rules t pool) :
    pool.UpdatedValued t := by
  induction h with
  | start => exact fun a _ => Reserve.valued_empty rfl rfl
  | block before hle _ steps ih =>
    exact (ih.later (fun a => (before.inRange a).timestamp_le) hle).keeps steps.keepsValued

theorem Visited.updatedValued (h : Visited rules t pool) : pool.UpdatedValued t := by
  obtain ⟨_, _, reachable, hle, _, visits⟩ := h
  have inv := reachable.updatedValued.later (fun a => (reachable.inRange a).timestamp_le) hle
  exact inv.keeps visits.keepsValued

theorem LendingPool.Write.restsAtZero {events : List Event} (h : Write t events pool pool')
    (inv : ∀ a, (pool.reserves a).stableDebtToken.RestsAtZero) (a : Address) :
    (pool'.reserves a).stableDebtToken.RestsAtZero := by
  have stored : ∀ {asset : Address} {r : Reserve}, r.stableDebtToken.RestsAtZero →
      ((pool.setReserve asset r).reserves a).stableDebtToken.RestsAtZero := by
    intro asset r hr
    exact setReserve_forall (P := fun _ r' => r'.stableDebtToken.RestsAtZero) hr inv a
  cases h with
  | updateState h =>
    obtain ⟨_, hr, rfl⟩ := updateState_eq_ok h
    obtain ⟨_, _, _, _, _, _, rfl, _⟩ := Reserve.updateState_eq_ok hr
    exact stored (inv _)
  | updateInterestRates _ h =>
    obtain ⟨_, hr, rfl⟩ := updateInterestRates_eq_ok h
    obtain ⟨_, _, rfl⟩ := Reserve.updateInterestRates_eq_ok hr
    exact stored (inv _)
  | cumulateToLiquidityIndex h =>
    obtain ⟨_, _, rfl⟩ := cumulateToLiquidityIndex_eq_ok h
    exact stored (inv _)
  | setUsingAsCollateral _ h =>
    obtain ⟨_, _, rfl⟩ := setUsingAsCollateral_eq_ok h
    exact inv a
  | setBorrowing _ h =>
    obtain ⟨_, _, rfl⟩ := setBorrowing_eq_ok h
    exact inv a
  | setToken _ asset token => exact inv a
  | setELToken _ => exact stored (inv _)
  | mintVariableDebt h =>
    obtain ⟨_, _, rfl⟩ := mintVariableDebt_eq_ok h
    exact stored (inv _)
  | burnVariableDebt h =>
    obtain ⟨_, _, rfl⟩ := burnVariableDebt_eq_ok h
    exact stored (inv _)
  | mintStableDebt _ h =>
    obtain ⟨_, hmint, rfl⟩ := mintStableDebt_eq_ok h
    exact stored (.mint hmint)
  | burnStableDebt _ h =>
    obtain ⟨_, hburn, rfl⟩ := burnStableDebt_eq_ok h
    exact stored (.burn hburn)
  | approveStableDelegation _ msgSender asset delegatee amount => exact stored (inv asset)
  | approveVariableDelegation _ msgSender asset delegatee amount => exact stored (inv asset)
  | @listReserve _ _ input h =>
    obtain ⟨_, id, configuration, hreserves⟩ := listReserve_reserves h
    rw [hreserves]
    by_cases ha : a = input.underlyingAsset
    · subst ha
      rw [Function.update_self]
      exact fun _ => rfl
    · rw [Function.update_of_ne ha]
      exact inv a
  | setConfiguration _ asset configuration => exact stored (inv asset)
  | setReserveInterestRateStrategy _ asset strategy => exact stored (inv asset)
  | setWorld _ paused priceOracle lendingRateOracle => exact inv a

theorem Visited.restsAtZero (h : Visited rules t pool) (a : Address) :
    (pool.reserves a).stableDebtToken.RestsAtZero := by
  have inv : TimedInvariant fun _ pool => ∀ a, (pool.reserves a).stableDebtToken.RestsAtZero :=
    ⟨fun _ _ _ _ inv => inv, fun _ _ _ _ _ inv h => h.restsAtZero inv⟩
  exact inv.visited (fun _ _ _ _ _ _ _ _ => rfl) h a

theorem Visited.listed (h : Visited rules t pool)
    (initialised : (pool.reserves asset).elTokenAddress ≠ 0) : (pool.reserves asset).Listed := by
  obtain blank | ⟨listed, _⟩ := h.listing.1.known asset
  · exact absurd blank.elToken initialised
  · exact listed

/-- In every visited state, whatever the block has done before, an update of a reserve that the block
has updated goes through and leaves the whole pool as it is. The index, whose move mints to the
treasury, stays, and the debts, of whose growth the treasury gets a share, have not grown. -/
theorem accrual_once_per_block (visited : Visited rules t pool)
    (initialised : (pool.reserves asset).elTokenAddress ≠ 0)
    (updated : (pool.reserves asset).lastUpdateTimestamp = t) :
    pool.updateState t asset = .ok pool ∧
      (pool.reserves asset).nextLiquidityIndex t = .ok (pool.reserves asset).liquidityIndex ∧
      (pool.reserves asset).DebtGrowth t (pool.reserves asset).variableBorrowIndex 0 := by
  have ht : IsBlockTimestamp t := by
    obtain ⟨_, _, _, _, ht, _⟩ := visited
    exact ht
  have deployed := (visited.listed initialised).variableDebtToken
  have range := visited.inRange asset
  have clocks := visited.clocksOrdered asset
  have valued := visited.updatedValued asset updated
  have same := Reserve.updateState_now ht deployed updated range.liquidityIndex_le
    range.variableBorrowIndex_le (clocks.supply_le.trans updated.le) (visited.restsAtZero asset) valued
  refine ⟨?_, Reserve.nextLiquidityIndex_now updated range.liquidityIndex_le, ?_⟩
  · rw [updateState, same]
    simp [setReserve]
  · obtain ⟨stable, variableDebt, hstable, hvariable, _⟩ := valued
    exact ⟨variableDebt, variableDebt, stable, stable, hvariable, hvariable, updated ▸ hstable,
      hstable, rfl⟩

/-- Both kinds of loans have just been taken, of a reserve with a reserve factor of 60%. -/
theorem borrowedOutMarket_accrues_once :
    borrowedOutMarket.updateState 4 Market.weth = .ok borrowedOutMarket := by
  have reachable : Reachable .any 4 borrowedOutMarket :=
    Market.endState_reachable (by decide +kernel) (by decide +kernel)
  exact (accrual_once_per_block (reachable.visited (by decide)) (by decide +kernel)
    (by decide +kernel)).1

end ElectroLend
