import ElectroLend.Lending.StableReads
import ElectroLend.Pool.DebtFrame
import ElectroLend.Pool.Repayment

namespace ElectroLend

open Outcome

namespace LendingPool

/-- Both pools hold the same debt tokens. -/
structure SameDebtTokens (pool pool' : LendingPool) : Prop where
  stableDebtToken : ∀ a, (pool'.reserves a).stableDebtToken = (pool.reserves a).stableDebtToken
  variableDebtToken :
    ∀ a, (pool'.reserves a).variableDebtToken = (pool.reserves a).variableDebtToken

theorem SameDebtTokens.of_reserves {pool pool' : LendingPool} (h : pool'.reserves = pool.reserves) :
    pool.SameDebtTokens pool' :=
  ⟨fun _ => by rw [h], fun _ => by rw [h]⟩

theorem SameDebtTokens.trans {pool pool' pool'' : LendingPool} (h : pool.SameDebtTokens pool')
    (h' : pool'.SameDebtTokens pool'') : pool.SameDebtTokens pool'' where
  stableDebtToken a := (h'.stableDebtToken a).trans (h.stableDebtToken a)
  variableDebtToken a := (h'.variableDebtToken a).trans (h.variableDebtToken a)

end LendingPool

open LendingPool

/-- The part is not in the debt tokens. -/
def Part.KeepsDebtTokens : Part → Prop
  | debts | market => False
  | _ => True

section Deeds

variable {pool pool' : LendingPool} {t : Nat} {deed : Deed} {allowed : Deed → Prop}

theorem Did.sameDebtTokens (h : Did t deed pool pool') (keeps : deed.part.KeepsDebtTokens) : pool.SameDebtTokens pool' := by
  obtain ⟨asset, stored⟩ := h.stored_inner (.of_part id keeps)
  generalize deed.part = part at stored keeps
  have set {r : Reserve} (hs : r.stableDebtToken = (pool.reserves asset).stableDebtToken)
      (hv : r.variableDebtToken = (pool.reserves asset).variableDebtToken) :
      pool.SameDebtTokens (pool.setReserve asset r) :=
    ⟨setReserve_forall (P := fun a r' => r'.stableDebtToken = (pool.reserves a).stableDebtToken) hs
        fun _ => rfl,
      setReserve_forall
        (P := fun a r' => r'.variableDebtToken = (pool.reserves a).variableDebtToken) hv fun _ => rfl⟩
  cases stored with
  | debts _ _ => exact keeps.elim
  | bits u config => exact .of_reserves rfl
  | underlying token => exact .of_reserves rfl
  | payout elToken token =>
    have burned : pool.SameDebtTokens (pool.setReserve asset { pool.reserves asset with elToken }) :=
      set rfl rfl
    exact burned.trans (.of_reserves rfl)
  | _ => exact set rfl rfl

theorem Deeds.sameDebtTokens (h : Deeds t allowed pool pool')
    (keeps : ∀ deed, allowed deed → deed.part.KeepsDebtTokens) :
    pool.SameDebtTokens pool' :=
  h.invariant pool.SameDebtTokens
    (fun _ _ _ fine same did =>
      same.trans (did.sameDebtTokens (keeps _ fine))) (.of_reserves rfl)

end Deeds

namespace LendingPool

variable {pool pool' : LendingPool} {t amount added taken : Nat} {asset elToken u v : Address}

theorem updateState_sameDebtTokens (h : pool.updateState t asset = .ok pool') :
    pool.SameDebtTokens pool' ∧
      (pool.reserves asset).nextVariableBorrowIndex t =
        .ok (pool'.reserves asset).variableBorrowIndex := by
  refine ⟨(Did.updateState h).sameDebtTokens trivial, ?_⟩
  obtain ⟨r, hr, rfl⟩ := updateState_eq_ok h
  obtain ⟨_, vi, _, _, _, hvi, rfl, _⟩ := Reserve.updateState_eq_ok hr
  simpa using hvi

theorem updateInterestRates_sameDebtTokens
    (h : pool.updateInterestRates t asset elToken added taken = .ok pool') :
    pool.SameDebtTokens pool' :=
  (Did.updateInterestRates h).sameDebtTokens trivial

theorem updateUserConfig_sameDebtTokens {c : Prop}
    {change : UserConfigurationMap → Result UserConfigurationMap}
    (h : (c ∧ pool.updateUserConfig u change = .ok pool') ∨ (¬c ∧ pool = pool')) :
    pool.SameDebtTokens pool' := by
  obtain ⟨_, rfl⟩ := updateUserConfig_if h
  exact .of_reserves rfl

theorem pullUnderlying_sameDebtTokens (h : pool.pullUnderlying asset u v amount = .ok pool') :
    pool.SameDebtTokens pool' :=
  (Did.pull (t := 0) h).sameDebtTokens trivial

theorem seizeCollateral_sameDebtTokens {msgSender : Address} {receiveLToken : Bool}
    (h : pool.seizeCollateral t msgSender asset u amount receiveLToken = .ok pool') :
    pool.SameDebtTokens pool' := by
  have deeds : Deeds t (fun deed => deed.part.KeepsDebtTokens) pool pool' :=
    seizeCollateral_deeds trivial trivial trivial
      trivial h
  exact deeds.sameDebtTokens fun _ keeps => keeps

/-- The debt tokens of one reserve, before and after burning `stable` and `variableDebt` of `u` at
an index; where there is nothing to burn the token is not called. -/
structure Burns (t : Nat) (u : Address) (stable variableDebt index : Nat) (r r' : Reserve) :
    Prop where
  stableDebtToken : (stable = 0 ∧ r'.stableDebtToken = r.stableDebtToken) ∨
    (stable ≠ 0 ∧ r.stableDebtToken.burn t u stable = .ok r'.stableDebtToken)
  variableDebtToken : (variableDebt = 0 ∧ r'.variableDebtToken = r.variableDebtToken) ∨
    (variableDebt ≠ 0 ∧ r.variableDebtToken.burn u variableDebt index = .ok r'.variableDebtToken)

namespace Burns

variable {r r' : Reserve} {stable variableDebt index debt : Nat}

theorem stable_left (h : Burns t u stable variableDebt index r r')
    (hview : r.stableDebtToken.balanceOf t u = .ok debt) :
    stable ≤ debt ∧ (r'.stableDebtToken.balances u = 0 ↔ debt = stable) := by
  obtain ⟨rfl, same⟩ | ⟨_, hburn⟩ := h.stableDebtToken
  · rw [same, ← StableDebtToken.balanceOf_eq_zero_iff (t := t), hview]
    exact ⟨Nat.zero_le debt, by simp⟩
  · obtain ⟨_, _, hb, _, _, hle, hbals, _⟩ := StableDebtToken.burn_eq_ok hburn
    cases ok_unique hview hb
    have left : r'.stableDebtToken.balances u = debt - stable := by simp [hbals]
    exact ⟨hle, by omega⟩

theorem variable_left (h : Burns t u stable variableDebt index r r') :
    halfUp (variableDebt * RAY) index ≤ r.variableDebtToken.balances u ∧
      r'.variableDebtToken.balances u =
        r.variableDebtToken.balances u - halfUp (variableDebt * RAY) index := by
  obtain ⟨rfl, same⟩ | ⟨_, hburn⟩ := h.variableDebtToken
  · rw [same, Nat.zero_mul, HalfUp.zero_left]
    exact ⟨Nat.zero_le _, rfl⟩
  · obtain ⟨scaled, hd, _, hle, _, hbals, _⟩ := VariableDebtToken.burn_eq_ok hburn
    obtain ⟨_, rfl⟩ := rayDiv_eq_ok.mp hd
    exact ⟨hle, by simp [hbals]⟩

/-- What remains after a burn of both debts: nothing exactly when the whole stable debt is burned,
and an amount whose units are the whole scaled balance. -/
theorem emptied_iff (h : Burns t u stable variableDebt index r r')
    (hview : r.stableDebtToken.balanceOf t u = .ok debt) :
    ¬r'.Owes u ↔
      debt = stable ∧ r.variableDebtToken.balances u ≤ halfUp (variableDebt * RAY) index := by
  obtain ⟨_, stable_left⟩ := h.stable_left hview
  obtain ⟨hle, variable_left⟩ := h.variable_left
  unfold Reserve.Owes
  rw [← stable_left, variable_left]
  omega

theorem others (h : Burns t u stable variableDebt index r r') {v : Address} (hv : v ≠ u) :
    r.stableDebtToken.SameAccount r'.stableDebtToken v ∧
      r'.variableDebtToken.balances v = r.variableDebtToken.balances v := by
  constructor
  · obtain ⟨_, same⟩ | ⟨_, hburn⟩ := h.stableDebtToken
    · rw [same]
      exact ⟨rfl, rfl, rfl⟩
    · exact StableDebtToken.burn_sameAccount hburn hv
  · obtain ⟨_, same⟩ | ⟨_, hburn⟩ := h.variableDebtToken
    · rw [same]
    · obtain ⟨_, _, _, _, _, hbals, _⟩ := VariableDebtToken.burn_eq_ok hburn
      rw [hbals, Function.update_of_ne hv]

end Burns

/-- The debt tokens of an asset after an accrual, burns and operations that leave them alone; the
reserves of the other assets are not burned from. -/
structure BurnsDebt (t : Nat) (asset u : Address) (stable variableDebt : Nat)
    (pool pool' : LendingPool) : Prop where
  burns : ∃ index, (pool.reserves asset).nextVariableBorrowIndex t = .ok index ∧
    Burns t u stable variableDebt index (pool.reserves asset) (pool'.reserves asset)
  others : ∀ a, a ≠ asset → (pool'.reserves a).stableDebtToken = (pool.reserves a).stableDebtToken ∧
    (pool'.reserves a).variableDebtToken = (pool.reserves a).variableDebtToken

theorem BurnsDebt.of_burns {p₁ p₂ : LendingPool} {stable variableDebt : Nat}
    (h₁ : pool.updateState t asset = .ok p₁)
    (burns : Burns t u stable variableDebt (p₁.reserves asset).variableBorrowIndex
      (p₁.reserves asset) (p₂.reserves asset))
    (others : ∀ a, a ≠ asset → p₂.reserves a = p₁.reserves a) (same : p₂.SameDebtTokens pool') :
    BurnsDebt t asset u stable variableDebt pool pool' := by
  obtain ⟨accrued, hindex⟩ := updateState_sameDebtTokens h₁
  refine ⟨⟨_, hindex, ?_, ?_⟩, ?_⟩
  · rw [same.stableDebtToken, ← accrued.stableDebtToken]
    exact burns.stableDebtToken
  · rw [same.variableDebtToken, ← accrued.variableDebtToken]
    exact burns.variableDebtToken
  · intro a ha
    rw [same.stableDebtToken, same.variableDebtToken, others a ha]
    exact ⟨accrued.stableDebtToken a, accrued.variableDebtToken a⟩

theorem burnStableDebt_burns (hne : amount ≠ 0) (index : Nat)
    (h : pool.burnStableDebt t asset u amount = .ok pool') :
    Burns t u amount 0 index (pool.reserves asset) (pool'.reserves asset) ∧
      ∀ a, a ≠ asset → pool'.reserves a = pool.reserves a := by
  obtain ⟨token, hb, rfl⟩ := burnStableDebt_eq_ok h
  refine ⟨⟨.inr ⟨hne, by simpa using hb⟩, .inl ⟨rfl, by simp⟩⟩, ?_⟩
  intro a ha
  simp [ha]

theorem burnVariableDebt_burns (t : Nat) (h : pool.burnVariableDebt asset u amount = .ok pool') :
    Burns t u 0 amount (pool.reserves asset).variableBorrowIndex (pool.reserves asset)
        (pool'.reserves asset) ∧
      ∀ a, a ≠ asset → pool'.reserves a = pool.reserves a := by
  have hne := burnVariableDebt_amount h
  obtain ⟨token, hb, rfl⟩ := burnVariableDebt_eq_ok h
  refine ⟨⟨.inl ⟨rfl, by simp⟩, .inr ⟨hne, by simpa using hb⟩⟩, ?_⟩
  intro a ha
  simp [ha]

/-- What a repayment of `paid` makes of the debt of one mode. -/
structure Repays (t : Nat) (asset u : Address) (amount paid : Nat) (mode : InterestRateMode)
    (pool pool' : LendingPool) : Prop where
  debts : ∃ stable variableDebt, (pool.reserves asset).stableDebtBalanceOf t u = .ok stable ∧
    (pool.reserves asset).variableDebtBalanceOf t u = .ok variableDebt ∧
    ((mode = .stable ∧ paid = min amount stable ∧
        BurnsDebt t asset u paid 0 pool pool') ∨
      (mode = .variable ∧ paid = min amount variableDebt ∧
        BurnsDebt t asset u 0 paid pool pool')) ∧
    ∀ w i, (pool'.usersConfig w).borrowingBit i =
      if w = u ∧ i = (pool.reserves asset).id ∧ stable + variableDebt = paid then false
      else (pool.usersConfig w).borrowingBit i

theorem repay_repays {msgSender : Address} {rateMode paid : Nat}
    (h : pool.repay t msgSender asset amount rateMode u = .ok (paid, pool')) :
    ∃ mode, InterestRateMode.fromNat rateMode = .ok mode ∧
      Repays t asset u amount paid mode pool pool' := by
  obtain ⟨stable, variableDebt, mode, p₁, p₂, p₃, p₄, hs, hv, hmode, hvalid, rfl, h₁, h₂, h₃, hle,
    hbit, h₅⟩ := repay_eq_ok h
  simp only [validateRepay, bind_eq_ok, require_eq_ok] at hvalid
  obtain ⟨_, _, _, hpos, _, hselected, _⟩ := hvalid
  have same := (updateInterestRates_sameDebtTokens h₃).trans
    ((updateUserConfig_sameDebtTokens hbit).trans (pullUnderlying_sameDebtTokens h₅))
  have frame := (updateState_debtFrame h₁).trans
    ((burnDebt_debtFrame h₂).trans (updateInterestRates_debtFrame h₃))
  refine ⟨mode, hmode, stable, variableDebt, hs, hv, ?_, ?_⟩
  · rw [burnDebt] at h₂
    rw [paybackAmount_eq_min] at h₂ ⊢
    obtain ⟨hdebt, rfl⟩ | ⟨hdebt, rfl⟩ := hselected
    · rw [if_pos rfl, if_pos rfl] at h₂
      obtain ⟨burns, others⟩ := burnStableDebt_burns (by omega) _ h₂
      exact .inl ⟨rfl, by rw [if_pos rfl], by rw [if_pos rfl]; exact .of_burns h₁ burns others same⟩
    · have other : ¬(InterestRateMode.variable = .stable) := by decide
      rw [if_neg other, if_neg other] at h₂
      obtain ⟨burns, others⟩ := burnVariableDebt_burns t h₂
      exact .inr ⟨rfl, by rw [if_neg other],
        by rw [if_neg other]; exact .of_burns h₁ burns others same⟩
  · intro w i
    rw [(pullUnderlying_debtFrame h₅).bits, ← frame.bits w i,
      ← (frame.listing.reserve asset).id]
    obtain ⟨hz, hset⟩ | ⟨hz, rfl⟩ := hbit
    · have hall : stable + variableDebt = paybackAmount amount stable variableDebt mode := by omega
      obtain ⟨config, hc, rfl⟩ := setBorrowing_eq_ok hset
      obtain ⟨_, hbits, _⟩ := UserConfigurationMap.setBorrowing_eq_ok hc
      by_cases hw : w = u
      · subst hw
        simp [hbits, ← hall]
      · simp [hw]
    · have hpart : stable + variableDebt ≠ paybackAmount amount stable variableDebt mode := by omega
      simp [hpart]

/-- A liquidation burns the variable debt first, and stable debt for the rest. -/
theorem burnLiquidatedDebt_burns {variableDebt : Nat}
    (h : pool.burnLiquidatedDebt t asset u variableDebt amount = .ok pool') :
    amount ≠ 0 ∧ Burns t u (amount - variableDebt) (min amount variableDebt)
        (pool.reserves asset).variableBorrowIndex (pool.reserves asset) (pool'.reserves asset) ∧
      ∀ a, a ≠ asset → pool'.reserves a = pool.reserves a := by
  obtain ⟨hge, hb⟩ | ⟨hlt, p₁, hb, hs⟩ := burnLiquidatedDebt_eq_ok h
  · rw [Nat.sub_eq_zero_of_le hge, Nat.min_eq_left hge]
    exact ⟨burnVariableDebt_amount hb, burnVariableDebt_burns t hb⟩
  · obtain ⟨stable, stable_others⟩ :=
      burnStableDebt_burns (by omega) (pool.reserves asset).variableBorrowIndex hs
    rw [Nat.min_eq_right (by omega)]
    refine ⟨by omega, ?_⟩
    obtain ⟨_, hb⟩ | ⟨hz, rfl⟩ := hb
    · obtain ⟨variable', variable_others⟩ := burnVariableDebt_burns t hb
      obtain ⟨_, same⟩ | ⟨hne, _⟩ := variable'.stableDebtToken
      · obtain ⟨_, kept⟩ | ⟨hne, _⟩ := stable.variableDebtToken
        · refine ⟨⟨?_, ?_⟩, fun a ha => (stable_others a ha).trans (variable_others a ha)⟩
          · rw [← same]
            exact stable.stableDebtToken
          · rw [kept]
            exact variable'.variableDebtToken
        · exact absurd rfl hne
      · exact absurd rfl hne
    · have hz : variableDebt = 0 := by omega
      rw [hz] at stable ⊢
      exact ⟨stable, stable_others⟩

theorem debtToLiquidate_eq_min (debtToCover half : Nat) :
    debtToLiquidate debtToCover half = min debtToCover half := by
  unfold debtToLiquidate
  split
  · omega
  · omega

theorem liquidationCall_burns {msgSender collateralAsset debtAsset : Address} {debtToCover : Nat}
    {receiveLToken : Bool} (h : pool.liquidationCall t msgSender collateralAsset debtAsset u
      debtToCover receiveLToken = .ok pool') :
    ∃ stable variableDebt half balance collateral needed,
      (pool.reserves debtAsset).stableDebtBalanceOf t u = .ok stable ∧
      (pool.reserves debtAsset).variableDebtBalanceOf t u = .ok variableDebt ∧
      percentMul (stable + variableDebt) LIQUIDATION_CLOSE_FACTOR_PERCENT = .ok half ∧
      (pool.reserves collateralAsset).elTokenBalanceOf u = .ok balance ∧
      pool.calculateAvailableCollateralToLiquidate collateralAsset debtAsset
        (debtToLiquidate debtToCover half) balance = .ok (collateral, needed) ∧
      min (debtToLiquidate debtToCover half) needed ≠ 0 ∧
      BurnsDebt t debtAsset u (min (debtToLiquidate debtToCover half) needed - variableDebt)
        (min (min (debtToLiquidate debtToCover half) needed) variableDebt) pool pool' := by
  obtain ⟨debt, seized, marked, hcover, _, hseize, hbit, hpull⟩ := liquidationCall_eq_ok h
  obtain ⟨stable, variableDebt, half, needed, accrued, burned, hs, hv, hbalance, _, hhalf,
    havailable, hcovered, h₁, h₂, h₃⟩ := coverDebt_eq_ok hcover
  rw [hcovered] at h₂
  obtain ⟨hne, burns, others⟩ := burnLiquidatedDebt_burns h₂
  have same := (updateInterestRates_sameDebtTokens h₃).trans
    ((seizeCollateral_sameDebtTokens hseize).trans
      ((updateUserConfig_sameDebtTokens hbit).trans (pullUnderlying_sameDebtTokens hpull)))
  exact ⟨stable, variableDebt, half, _, _, needed, hs, hv, hhalf, hbalance, havailable, hne,
    .of_burns h₁ burns others same⟩

end LendingPool

end ElectroLend
