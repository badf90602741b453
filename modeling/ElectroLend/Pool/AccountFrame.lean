import ElectroLend.Lending.VariableReads
import ElectroLend.Pool.AccountSums
import ElectroLend.Pool.TouchesOnly

namespace ElectroLend

open Outcome

/-- Both reserves enter the account data at `t` with the same parameters and the same debt tokens,
and the second one does not read the variable debt at a higher index. -/
structure Reserve.SameAccounting (t : Nat) (r r' : Reserve) : Prop where
  id : r'.id = r.id
  configuration : r'.configuration = r.configuration
  stableDebtTokenAddress : r'.stableDebtTokenAddress = r.stableDebtTokenAddress
  variableDebtTokenAddress : r'.variableDebtTokenAddress = r.variableDebtTokenAddress
  stableDebtToken : r'.stableDebtToken = r.stableDebtToken
  variableDebtToken : r'.variableDebtToken = r.variableDebtToken
  index : ∀ view, r.getNormalizedDebt t = .ok view →
    ∃ view', r'.getNormalizedDebt t = .ok view' ∧ view' ≤ view

namespace Reserve

variable {r r' : Reserve} {t : Nat} {u : Address}

theorem SameAccounting.refl (t : Nat) (r : Reserve) : r.SameAccounting t r :=
  ⟨rfl, rfl, rfl, rfl, rfl, rfl, fun view hv => ⟨view, hv, Nat.le_refl view⟩⟩

theorem SameAccounting.trans {r'' : Reserve} (h : r.SameAccounting t r')
    (h' : r'.SameAccounting t r'') : r.SameAccounting t r'' where
  id := h'.id.trans h.id
  configuration := h'.configuration.trans h.configuration
  stableDebtTokenAddress := h'.stableDebtTokenAddress.trans h.stableDebtTokenAddress
  variableDebtTokenAddress := h'.variableDebtTokenAddress.trans h.variableDebtTokenAddress
  stableDebtToken := h'.stableDebtToken.trans h.stableDebtToken
  variableDebtToken := h'.variableDebtToken.trans h.variableDebtToken
  index view hv := by
    obtain ⟨view', hv', hle⟩ := h.index view hv
    obtain ⟨view'', hv'', hle'⟩ := h'.index view' hv'
    exact ⟨view'', hv'', hle'.trans hle⟩

theorem updateState_accounting (ht : IsBlockTimestamp t) (h : r.updateState t = .ok r') :
    r.SameAccounting t r' := by
  obtain ⟨li, vi, minted, _, _, hvi, rfl, _⟩ := updateState_eq_ok h
  refine ⟨rfl, rfl, rfl, rfl, rfl, rfl, ?_⟩
  intro view hv
  exact ⟨vi, getNormalizedDebt_now rfl, next_le_getNormalizedDebt ht hv hvi⟩

/-- New rates do not change how the debt is read in a block that has already been accrued to. -/
theorem updateInterestRates_accounting {market balance added taken : Nat}
    (hlast : r.lastUpdateTimestamp = uint40 t)
    (h : r.updateInterestRates t market balance added taken = .ok r') : r.SameAccounting t r' := by
  obtain ⟨rates, _, rfl⟩ := updateInterestRates_eq_ok h
  refine ⟨rfl, rfl, rfl, rfl, rfl, rfl, ?_⟩
  intro view hv
  rw [getNormalizedDebt_now hlast] at hv
  cases Except.ok.inj hv
  exact ⟨_, getNormalizedDebt_now hlast, Nat.le_refl _⟩

theorem SameAccounting.elToken (t : Nat) (r : Reserve) (elToken : ELToken) :
    r.SameAccounting t { r with elToken } :=
  ⟨rfl, rfl, rfl, rfl, rfl, rfl, fun view hv => ⟨view, hv, Nat.le_refl view⟩⟩

theorem rayMul_le_of_le {s view view' debt : Nat} (hle : view' ≤ view)
    (h : rayMul s view = .ok debt) : ∃ debt', rayMul s view' = .ok debt' ∧ debt' ≤ debt := by
  obtain ⟨hguard, rfl⟩ := rayMul_eq_ok.mp h
  have hmul := Nat.mul_le_mul_left s hle
  exact ⟨_, rayMul_eq_ok.mpr ⟨by omega, rfl⟩, HalfUp.mono hmul⟩

theorem SameAccounting.stableDebtBalanceOf (h : r.SameAccounting t r') :
    r'.stableDebtBalanceOf t u = r.stableDebtBalanceOf t u := by
  unfold Reserve.stableDebtBalanceOf
  rw [h.stableDebtTokenAddress, h.stableDebtToken]

theorem SameAccounting.variableDebtBalanceOf {debt : Nat} (h : r.SameAccounting t r')
    (hd : r.variableDebtBalanceOf t u = .ok debt) :
    ∃ debt', r'.variableDebtBalanceOf t u = .ok debt' ∧ debt' ≤ debt := by
  obtain ⟨listed, hread⟩ := variableDebtBalanceOf_eq_ok.mp hd
  rw [← h.variableDebtTokenAddress] at listed
  rw [← h.variableDebtToken] at hread
  obtain ⟨hz, rfl⟩ | ⟨hne, view, hv, hm⟩ := hread
  · exact ⟨0, variableDebtBalanceOf_eq_ok.mpr ⟨listed, .inl ⟨hz, rfl⟩⟩, Nat.le_refl 0⟩
  · obtain ⟨view', hv', hle⟩ := h.index view hv
    obtain ⟨debt', hm', hle'⟩ := rayMul_le_of_le hle hm
    exact ⟨debt', variableDebtBalanceOf_eq_ok.mpr ⟨listed, .inr ⟨hne, view', hv', hm'⟩⟩, hle'⟩

end Reserve

namespace LendingPool

/-- The collateral of every account is valued by the same list, prices and parameters. -/
structure ValueFrame (pool pool' : LendingPool) : Prop where
  count : pool'.reservesCount = pool.reservesCount
  list : pool'.reservesList = pool.reservesList
  price : pool'.priceOracle = pool.priceOracle
  configuration : ∀ a, (pool'.reserves a).configuration = (pool.reserves a).configuration

namespace ValueFrame

variable {pool pool' : LendingPool} {i : Nat} {u : Address}
  {config config' : UserConfigurationMap}

theorem paramsAt (h : pool.ValueFrame pool') (i : Nat) : pool'.paramsAt i = pool.paramsAt i := by
  unfold LendingPool.paramsAt
  rw [h.list, h.configuration]

theorem counts_iff (h : pool.ValueFrame pool')
    (bit : config'.collateralBit i = config.collateralBit i) :
    pool'.CountsAsCollateral config' i ↔ pool.CountsAsCollateral config i := by
  unfold CountsAsCollateral
  rw [h.paramsAt, bit]

theorem collateralAt (h : pool.ValueFrame pool')
    (bit : config'.collateralBit i = config.collateralBit i)
    (balance : (pool'.reserves (pool.reservesList i)).elToken.balances u =
      (pool.reserves (pool.reservesList i)).elToken.balances u) :
    pool'.collateralAt u config' i = pool.collateralAt u config i := by
  have counts := h.counts_iff bit
  unfold LendingPool.collateralAt
  by_cases hc : pool.CountsAsCollateral config i
  · rw [if_pos hc, if_pos (counts.mpr hc), h.paramsAt, h.list, h.price, balance]
  · rw [if_neg hc, if_neg (mt counts.mp hc)]

end ValueFrame

/-- The positions of the user are worth what they were. -/
structure SamePositions (pool pool' : LendingPool) (u : Address) : Prop where
  frame : pool.ValueFrame pool'
  positions : ∀ i, pool'.collateralAt u (pool'.usersConfig u) i =
    pool.collateralAt u (pool.usersConfig u) i

theorem SamePositions.totalCollateral {pool pool' : LendingPool} {u : Address}
    (same : pool.SamePositions pool' u) :
    pool'.totalCollateral u (pool'.usersConfig u) = pool.totalCollateral u (pool.usersConfig u) := by
  unfold LendingPool.totalCollateral
  rw [same.frame.count]
  exact Finset.sum_congr rfl fun i _ => same.positions i

theorem SamePositions.weightedThreshold {pool pool' : LendingPool} {u : Address}
    (same : pool.SamePositions pool' u) :
    pool'.weightedThreshold u (pool'.usersConfig u) =
      pool.weightedThreshold u (pool.usersConfig u) := by
  unfold LendingPool.weightedThreshold
  rw [same.frame.count]
  refine Finset.sum_congr rfl fun i _ => ?_
  rw [same.positions, same.frame.paramsAt]

/-- At time `t` every account is valued by the same list, prices, parameters and debt tokens. -/
structure AccountFrame (t : Nat) (pool pool' : LendingPool) : Prop where
  count : pool'.reservesCount = pool.reservesCount
  list : pool'.reservesList = pool.reservesList
  price : pool'.priceOracle = pool.priceOracle
  reserve : ∀ a, (pool.reserves a).SameAccounting t (pool'.reserves a)

variable {pool pool' : LendingPool} {t amount added taken i : Nat} {asset elToken u v : Address}
  {config config' : UserConfigurationMap}

theorem AccountFrame.refl (t : Nat) (pool : LendingPool) : pool.AccountFrame t pool :=
  ⟨rfl, rfl, rfl, fun _ => .refl t _⟩

theorem AccountFrame.trans {pool'' : LendingPool} (h : pool.AccountFrame t pool')
    (h' : pool'.AccountFrame t pool'') : pool.AccountFrame t pool'' where
  count := h'.count.trans h.count
  list := h'.list.trans h.list
  price := h'.price.trans h.price
  reserve a := (h.reserve a).trans (h'.reserve a)

theorem AccountFrame.setReserve {r : Reserve} (h : (pool.reserves asset).SameAccounting t r) :
    pool.AccountFrame t (pool.setReserve asset r) where
  count := rfl
  list := rfl
  price := rfl
  reserve := setReserve_forall (P := fun a => (pool.reserves a).SameAccounting t) h
    fun _ => .refl t _

theorem accrue_accountFrame {middle : LendingPool} (ht : IsBlockTimestamp t)
    (h₁ : pool.updateState t asset = .ok middle)
    (h₂ : middle.updateInterestRates t asset elToken added taken = .ok pool') :
    pool.AccountFrame t pool' := by
  obtain ⟨r, hr, rfl⟩ := updateState_eq_ok h₁
  obtain ⟨r', hr', rfl⟩ := updateInterestRates_eq_ok h₂
  have hlast : r.lastUpdateTimestamp = uint40 t := by
    obtain ⟨li, vi, minted, _, _, _, rfl, _⟩ := Reserve.updateState_eq_ok hr
    rfl
  have accrued : pool.AccountFrame t (pool.setReserve asset r) :=
    .setReserve (Reserve.updateState_accounting ht hr)
  refine accrued.trans (.setReserve ?_)
  rw [setReserve_reserves, Function.update_self] at hr' ⊢
  exact Reserve.updateInterestRates_accounting hlast hr'

theorem setELToken_accountFrame (t : Nat) (pool : LendingPool) (asset : Address)
    (elToken : ELToken) :
    pool.AccountFrame t (pool.setReserve asset { pool.reserves asset with elToken }) :=
  .setReserve (.elToken t _ elToken)

end LendingPool

open LendingPool

section Deeds

variable {pool pool' : LendingPool} {t t' : Nat} {deed : Deed} {allowed : Deed → Prop}

theorem Did.accountFrame (h : Did t' deed pool pool') (holders : deed.part.OfHolders) (t : Nat) : pool.AccountFrame t pool' := by
  obtain ⟨asset, stored⟩ := h.stored_inner (.of_part id holders)
  generalize deed.part = part at stored holders
  cases stored with
  | elTokens elToken => exact setELToken_accountFrame t pool asset elToken
  | payout elToken token =>
    have burned := setELToken_accountFrame t pool asset elToken
    exact burned.trans ⟨rfl, rfl, rfl, fun _ => .refl t _⟩
  | bits u config => exact ⟨rfl, rfl, rfl, fun _ => .refl t _⟩
  | underlying token => exact ⟨rfl, rfl, rfl, fun _ => .refl t _⟩
  | interest _ _ _ _ _ _ _ => exact holders.elim
  | debts _ _ => exact holders.elim
  | terms _ _ => exact holders.elim

theorem Deeds.accountFrame (h : Deeds t' allowed pool pool')
    (holders : ∀ deed, allowed deed → deed.part.OfHolders) (t : Nat) :
    pool.AccountFrame t pool' :=
  h.invariant (pool.AccountFrame t)
    (fun _ _ _ fine frame did =>
      frame.trans (did.accountFrame (holders _ fine) t)) (.refl t pool)

end Deeds

namespace LendingPool

variable {pool pool' : LendingPool} {t amount added taken i : Nat} {asset elToken u v : Address}
  {config config' : UserConfigurationMap}

theorem setUsingAsCollateral_accountFrame {n : Nat} {value : Bool} (t : Nat)
    (h : pool.setUsingAsCollateral u n value = .ok pool') : pool.AccountFrame t pool' :=
  (Did.setUsingAsCollateral (t := t) h).accountFrame trivial t

theorem burnELToken_accountFrame (t : Nat)
    (h : pool.burnELToken asset u v amount = .ok pool') : pool.AccountFrame t pool' :=
  (Did.burnELToken (t := t) h).accountFrame trivial t

theorem deposit_accountFrame {msgSender onBehalfOf : Address} (ht : IsBlockTimestamp t)
    (h : pool.deposit t msgSender asset amount onBehalfOf = .ok pool') :
    pool.AccountFrame t pool' := by
  obtain ⟨p₁, p₂, p₃, first, p₄, h₁, h₂, h₃, h₄, hbit⟩ := deposit_eq_ok h
  have paid := (Did.pull (t := t) h₃).accountFrame trivial t
  have minted := (Did.mintELToken (t := t) h₄).accountFrame trivial t
  have moved := (accrue_accountFrame ht h₁ h₂).trans (paid.trans minted)
  obtain ⟨_, hset⟩ | ⟨_, rfl⟩ := hbit
  · exact moved.trans (setUsingAsCollateral_accountFrame t hset)
  · exact moved

theorem withdraw_accountFrame {msgSender recipient : Address} {paid : Nat}
    (ht : IsBlockTimestamp t)
    (h : pool.withdraw t msgSender asset amount recipient = .ok (paid, pool')) :
    pool.AccountFrame t pool' := by
  obtain ⟨_, p₁, p₂, p₃, _, _, h₁, h₂, hbit, h₄, _⟩ := withdraw_eq_ok h
  have accrued := accrue_accountFrame ht h₁ h₂
  obtain ⟨_, hset⟩ | ⟨_, rfl⟩ := hbit
  · exact accrued.trans
      ((setUsingAsCollateral_accountFrame t hset).trans (burnELToken_accountFrame t h₄))
  · exact accrued.trans (burnELToken_accountFrame t h₄)

theorem finalizeTransfer_accountFrame {caller : Address} {beforeFrom beforeTo : Nat}
    (h : pool.finalizeTransfer t caller asset u v amount beforeFrom beforeTo = .ok pool') :
    pool.AccountFrame t pool' := by
  have deeds : Deeds t (fun deed => deed.part.OfHolders) pool pool' :=
    finalizeTransfer_deeds trivial trivial h
  exact deeds.accountFrame (fun _ holders => holders) t

theorem transferELToken_accountFrame {validate : Bool}
    (h : pool.transferELToken t asset u v amount validate = .ok pool') :
    pool.AccountFrame t pool' := by
  have deeds : Deeds t (fun deed => deed.part.OfHolders) pool pool' :=
    transferELToken_deeds trivial trivial trivial h
  exact deeds.accountFrame (fun _ holders => holders) t

theorem AccountFrame.value (h : pool.AccountFrame t pool') : pool.ValueFrame pool' :=
  ⟨h.count, h.list, h.price, fun a => (h.reserve a).configuration⟩

theorem AccountFrame.reserveDebtInETH_le {debt : Nat} (h : pool.AccountFrame t pool')
    (hd : pool.reserveDebtInETH t u asset = .ok debt) :
    ∃ debt', pool'.reserveDebtInETH t u asset = .ok debt' ∧ debt' ≤ debt := by
  simp only [reserveDebtInETH, bind_eq_ok, pure_eq_ok, h.price,
    (h.reserve asset).stableDebtBalanceOf, (h.reserve asset).configuration] at hd ⊢
  obtain ⟨stable, hs, variableDebt, hv, rfl⟩ := hd
  obtain ⟨less, hl, hle⟩ := (h.reserve asset).variableDebtBalanceOf hv
  refine ⟨_, ⟨stable, hs, less, hl, rfl⟩, ?_⟩
  have hsum : stable + less ≤ stable + variableDebt := Nat.add_le_add_left hle stable
  have hvalue := Nat.mul_le_mul_left (pool.priceOracle asset) hsum
  exact Nat.div_le_div_right hvalue

theorem AccountFrame.debtAt_le {debt debt' : Nat} (h : pool.AccountFrame t pool')
    (bit : config'.borrowingBit i = config.borrowingBit i)
    (hd : pool.debtAt t u config i = .ok debt) (hd' : pool'.debtAt t u config' i = .ok debt') :
    debt' ≤ debt := by
  unfold LendingPool.debtAt at hd hd'
  rw [bit, h.list] at hd'
  split at hd
  next hbit =>
    rw [if_pos hbit] at hd'
    obtain ⟨less, hless, hle⟩ := h.reserveDebtInETH_le hd
    cases ok_unique hd' hless
    exact hle
  next hbit =>
    rw [if_neg hbit] at hd'
    cases Except.ok.inj hd'
    exact Nat.zero_le debt

theorem AccountFrame.totalDebt_le {account account' : UserAccountData}
    (h : pool.AccountFrame t pool')
    (bits : ∀ i, config'.borrowingBit i = config.borrowingBit i)
    (hdata : pool.calculateUserAccountData t u config = .ok account)
    (hdata' : pool'.calculateUserAccountData t u config' = .ok account') :
    account'.totalDebtInETH ≤ account.totalDebtInETH := by
  obtain ⟨debts, hdebts, _, hsum, _⟩ := calculateUserAccountData_eq_ok hdata
  obtain ⟨debts', hdebts', _, hsum', _⟩ := calculateUserAccountData_eq_ok hdata'
  rw [hsum, hsum', h.count]
  refine Finset.sum_le_sum fun i hi => ?_
  have hi := Finset.mem_range.mp hi
  exact h.debtAt_le (bits i) (hdebts i hi) (hdebts' i (by rw [h.count]; exact hi))

end LendingPool

end ElectroLend
