import ElectroLend.Gateway.WETHGateway
import ElectroLend.Pool.Repayment
import ElectroLend.Properties.Withdrawal

namespace ElectroLend

open Outcome

theorem ether_through (ether : Address → Nat) {this weth caller : Address} {value paid : Nat}
    (hw : this ≠ weth) (ht : caller ≠ this) (hc : caller ≠ weth) (hle : paid ≤ value) :
    let brought := Function.update (Function.update ether caller (ether caller - value)) this
      (ether this + value)
    let kept := Function.update (Function.update brought this (brought this - paid)) weth
      (brought weth + paid)
    Function.update (Function.update kept this (kept this - (value - paid))) caller
        (kept caller + (value - paid)) =
      Function.update (Function.update ether caller (ether caller - value + (value - paid))) weth
        (ether weth + paid) := by
  intro brought kept
  funext a
  by_cases hac : a = caller
  · subst hac
    simp [kept, brought, ht, hc]
  · by_cases haw : a = weth
    · subst haw
      simp [kept, brought, hc.symm, hw.symm]
    · by_cases hat : a = this
      · subst hat
        simp [kept, brought, ht.symm, hw]
        omega
      · simp [kept, brought, hac, haw, hat]

namespace WETHGateway

/-- Neither the gateway nor WETH, which call nobody but those named in their code. -/
structure OutsideCaller (gateway : WETHGateway) (msgSender : Address) : Prop where
  this : msgSender ≠ gateway.this
  weth : msgSender ≠ gateway.WETH

/-- The debt falls by `paid`, the rest of the value is refunded, and the gateway is left with the
ether and the WETH it had. -/
structure RepaysExactly (gateway gateway' : WETHGateway) (t : Nat) (mode : InterestRateMode)
    (msgSender : Address) (msgValue : Nat) (onBehalfOf : Address) (paid : Nat) : Prop where
  debt : gateway.pool.DebtFalls gateway'.pool t gateway.WETH mode onBehalfOf paid
  refund : gateway'.ether msgSender = gateway.ether msgSender - msgValue + (msgValue - paid)
  ether : gateway'.ether gateway.this = gateway.ether gateway.this
  weth : gateway'.wethBalanceOf gateway.this = gateway.wethBalanceOf gateway.this

/-- The pool when the gateway has wrapped some ether. -/
def wrapped (gateway : WETHGateway) (value : Nat) : LendingPool :=
  (gateway.setWETHBalance gateway.this (gateway.wethBalanceOf gateway.this + value)).pool

variable {gateway gateway' : WETHGateway} {t amount msgValue rateMode debt : Nat}
  {mode : InterestRateMode} {msgSender onBehalfOf : Address}

theorem wrapped_debtOf (value : Nat) :
    (gateway.wrapped value).debtOf t gateway.WETH mode onBehalfOf =
      gateway.pool.debtOf t gateway.WETH mode onBehalfOf := rfl

theorem refund_eq_ok {value paid : Nat} (hw : msgSender ≠ gateway.WETH)
    (ht : msgSender ≠ gateway.this) :
    (if paid < value then gateway.safeTransferETH msgSender (value - paid) else .ok gateway) =
        .ok gateway' ↔
      (paid < value → gateway.acceptsEther msgSender = true) ∧
        value - paid ≤ gateway.ether gateway.this ∧
        gateway' = gateway.setEther (Function.update
          (Function.update gateway.ether gateway.this
            (gateway.ether gateway.this - (value - paid)))
          msgSender (gateway.ether msgSender + (value - paid))) := by
  by_cases hlt : paid < value
  · rw [if_pos hlt, safeTransferETH_eq_ok hw]
    constructor
    · rintro ⟨⟨_, haccepts⟩, hle, he⟩
      exact ⟨fun _ => haccepts, hle, he⟩
    · rintro ⟨haccepts, hle, he⟩
      exact ⟨⟨ht, haccepts hlt⟩, hle, he⟩
  · have hz : value - paid = 0 := by omega
    rw [if_neg hlt, hz, Nat.sub_zero, Nat.add_zero, Function.update_eq_self,
      Function.update_eq_self, Except.ok.injEq]
    constructor
    · rintro rfl
      exact ⟨fun h => absurd h hlt, Nat.zero_le _, rfl⟩
    · rintro ⟨_, _, he⟩
      exact he.symm

/-- The ether before, during and after a repayment, and what the pool is asked for. -/
theorem repayETH_eq_ok (outside : gateway.OutsideCaller msgSender)
    (hmode : InterestRateMode.fromNat rateMode = .ok mode)
    (hdebt : gateway.pool.debtOf t gateway.WETH mode onBehalfOf = .ok debt) :
    gateway.repayETH t msgSender msgValue amount rateMode onBehalfOf = .ok gateway' ↔
      msgValue ≤ gateway.ether msgSender ∧ min amount debt ≤ msgValue ∧
      (min amount debt < msgValue → gateway.acceptsEther msgSender = true) ∧
      ∃ paid pool', (gateway.wrapped (min amount debt)).repay t gateway.this gateway.WETH msgValue
          rateMode onBehalfOf = .ok (paid, pool') ∧
        gateway' = (gateway.setPool pool').setEther (Function.update
          (Function.update gateway.ether msgSender
            (gateway.ether msgSender - msgValue + (msgValue - min amount debt)))
          gateway.WETH (gateway.ether gateway.WETH + min amount debt)) := by
  simp only [repayETH, bind_eq_ok, Prod.exists, require_eq_ok, receiveValue_eq_ok outside.this]
  constructor
  · rintro ⟨_, ⟨hfunds, rfl⟩, stable, variableDebt, hdebts, mode', hmode', _, hle, _, hwrap, paid,
      pool', hrepay, hrefund⟩
    obtain ⟨_, rfl⟩ := wethDeposit_eq_ok.mp hwrap
    cases ok_unique hmode hmode'
    rw [LendingPool.paybackAmount_of_debtOf hdebts hdebt] at hle hrepay hrefund
    rw [refund_eq_ok (by exact outside.weth) (by exact outside.this)] at hrefund
    obtain ⟨haccepts, _, rfl⟩ := hrefund
    refine ⟨hfunds, hle, haccepts, paid, pool', hrepay, ?_⟩
    rw [← ether_through gateway.ether gateway.this_ne_WETH outside.this outside.weth hle]
    rfl
  · rintro ⟨hfunds, hle, haccepts, paid, pool', hrepay, rfl⟩
    obtain ⟨stable, variableDebt, hdebts⟩ := LendingPool.repay_debts hrepay
    refine ⟨_, ⟨hfunds, rfl⟩, stable, variableDebt, hdebts, mode, hmode, (), ?_, _,
      wethDeposit_eq_ok.mpr ⟨?_, rfl⟩, paid, pool', ?_, ?_⟩
    · rw [LendingPool.paybackAmount_of_debtOf hdebts hdebt]
      exact hle
    · rw [LendingPool.paybackAmount_of_debtOf hdebts hdebt]
      simp
      omega
    · rw [LendingPool.paybackAmount_of_debtOf hdebts hdebt]
      exact hrepay
    · rw [LendingPool.paybackAmount_of_debtOf hdebts hdebt]
      rw [refund_eq_ok (by exact outside.weth) (by exact outside.this)]
      refine ⟨haccepts, ?_, ?_⟩
      · simp [gateway.this_ne_WETH]
        omega
      · rw [← ether_through gateway.ether gateway.this_ne_WETH outside.this outside.weth hle]
        rfl

/-- The pool takes as much of the value as was wrapped when the amount or the debt bounds both. -/
theorem min_value_eq_min_amount (hle : min amount debt ≤ msgValue) :
    min msgValue debt = min amount debt ↔ debt ≤ amount ∨ msgValue ≤ amount := by
  omega

/-- A repayment that goes through is exact when the pool takes of the value what was wrapped. -/
theorem repayETH_exact_iff (ht : IsBlockTimestamp t) (outside : gateway.OutsideCaller msgSender)
    (separate : (gateway.pool.reserves gateway.WETH).elTokenAddress ≠ gateway.this)
    (accrues : 0 < (gateway.pool.reserves gateway.WETH).currentLiquidityRate ∨
      (gateway.pool.reserves gateway.WETH).lastUpdateTimestamp = t)
    (hmode : InterestRateMode.fromNat rateMode = .ok mode)
    (hdebt : gateway.pool.debtOf t gateway.WETH mode onBehalfOf = .ok debt)
    (h : gateway.repayETH t msgSender msgValue amount rateMode onBehalfOf = .ok gateway') :
    gateway.RepaysExactly gateway' t mode msgSender msgValue onBehalfOf (min amount debt) ↔
      debt ≤ amount ∨ msgValue ≤ amount := by
  obtain ⟨hfunds, hle, _, paid, pool', hrepay, rfl⟩ :=
    (repayETH_eq_ok outside hmode hdebt).mp h
  obtain ⟨mode', debt', hmode', hdebt', hpaid, _, _, falls, moved⟩ :=
    LendingPool.repay_effect ht hrepay
  cases ok_unique hmode hmode'
  cases ok_unique hdebt hdebt'
  obtain ⟨hcovered, hleft⟩ := moveBalance_sender (Ne.symm separate) moved
  have hbalance : ((gateway.wrapped (min amount debt)).tokens gateway.WETH).balances gateway.this =
      gateway.wethBalanceOf gateway.this + min amount debt := by
    simp [wrapped]
  rw [hbalance] at hcovered hleft
  have kept : (pool'.tokens gateway.WETH).balances gateway.this =
      gateway.wethBalanceOf gateway.this ↔ paid = min amount debt := by omega
  rw [← min_value_eq_min_amount hle, ← hpaid]
  constructor
  · intro exact
    exact kept.mp exact.weth
  · rintro rfl
    refine ⟨⟨(falls accrues).falls⟩, ?_, ?_, kept.mpr rfl⟩
    · simp [outside.weth]
    · simp [gateway.this_ne_WETH, outside.this.symm]

end WETHGateway

open WETHGateway

/-- The two halves of an exact repayment, with `min amount debt` for the payback: one that goes
through is exact, and one that the value and the pool allow goes through exactly, if and only if the
amount covers the debt or the value, and the caller can be refunded and asked for. -/
theorem repayETH_charges_debt_iff {gateway : WETHGateway}
    {t amount msgValue rateMode debt : Nat} {mode : InterestRateMode}
    {msgSender onBehalfOf : Address} (ht : IsBlockTimestamp t)
    (outside : gateway.OutsideCaller msgSender)
    (separate : (gateway.pool.reserves gateway.WETH).elTokenAddress ≠ gateway.this)
    (accrues : 0 < (gateway.pool.reserves gateway.WETH).currentLiquidityRate ∨
      (gateway.pool.reserves gateway.WETH).lastUpdateTimestamp = t)
    (hmode : InterestRateMode.fromNat rateMode = .ok mode)
    (hdebt : gateway.pool.debtOf t gateway.WETH mode onBehalfOf = .ok debt) :
    (∀ gateway', gateway.repayETH t msgSender msgValue amount rateMode onBehalfOf = .ok gateway' →
      (gateway.RepaysExactly gateway' t mode msgSender msgValue onBehalfOf (min amount debt) ↔
        debt ≤ amount ∨ msgValue ≤ amount)) ∧
    (msgValue ≤ gateway.ether msgSender → min amount debt ≤ msgValue →
      ((gateway.wrapped (min amount debt)).repay t gateway.this gateway.WETH (min amount debt)
        rateMode onBehalfOf).isOk = true →
      ((∃ gateway',
          gateway.repayETH t msgSender msgValue amount rateMode onBehalfOf = .ok gateway' ∧
          gateway.RepaysExactly gateway' t mode msgSender msgValue onBehalfOf (min amount debt)) ↔
        (debt ≤ amount ∨ msgValue ≤ amount) ∧
          (min amount debt < msgValue → gateway.acceptsEther msgSender = true) ∧
          (msgValue = uint256Max → gateway.this = onBehalfOf))) := by
  have exact : ∀ gateway',
      gateway.repayETH t msgSender msgValue amount rateMode onBehalfOf = .ok gateway' →
      (gateway.RepaysExactly gateway' t mode msgSender msgValue onBehalfOf (min amount debt) ↔
        debt ≤ amount ∨ msgValue ≤ amount) := fun gateway' h =>
    repayETH_exact_iff ht outside separate accrues hmode hdebt h
  refine ⟨exact, ?_⟩
  intro hfunds hle hok
  constructor
  · rintro ⟨gateway', h, hexact⟩
    obtain ⟨_, _, haccepts, paid, pool', hrepay, _⟩ := (repayETH_eq_ok outside hmode hdebt).mp h
    obtain ⟨_, _, _, _, _, _, explicit, _⟩ := LendingPool.repay_effect ht hrepay
    exact ⟨(exact gateway' h).mp hexact, haccepts, explicit⟩
  · rintro ⟨cover, haccepts, explicit⟩
    obtain ⟨⟨paid, pool'⟩, hrepay⟩ := exists_of_isOk hok
    have offered := LendingPool.repay_congr hmode ((wrapped_debtOf _).trans hdebt)
      (show min msgValue debt = min (min amount debt) debt by omega) hle explicit hrepay
    have h := (repayETH_eq_ok outside hmode hdebt).mpr
      ⟨hfunds, hle, haccepts, paid, pool', offered, rfl⟩
    exact ⟨_, h, (exact _ h).mpr cover⟩

/-- A gateway to the market a month after bob's loan, in which somebody left WETH. -/
def accruedGateway : WETHGateway where
  this := 50
  WETH := Market.weth
  pool := accruedMarket
  ether := fun _ => 10 ^ 40
  acceptsEther := fun _ => true
  this_ne_WETH := by decide

/-- Alice clears bob's variable debt, and the value that is too much comes back to her. -/
theorem accruedGateway_repayETH_max :
    ∃ gateway' debt, accruedGateway.pool.debtOf 2592003 Market.weth .variable Market.bob =
        .ok debt ∧
      accruedGateway.repayETH 2592003 Market.alice (10 ^ 20) uint256Max 2 Market.bob =
        .ok gateway' ∧
      accruedGateway.RepaysExactly gateway' 2592003 .variable Market.alice (10 ^ 20) Market.bob
        debt := by
  have debts : succeedsWith
      (accruedGateway.pool.debtOf 2592003 Market.weth .variable Market.bob)
      (fun debt => decide (debt ≤ 10 ^ 20) &&
        ((accruedGateway.wrapped debt).repay 2592003 50 Market.weth debt 2 Market.bob).isOk) =
        true := by decide +kernel
  obtain ⟨debt, hdebt, hchecks⟩ := succeedsWith_iff.mp debts
  simp only [Bool.and_eq_true, decide_eq_true_eq] at hchecks
  obtain ⟨hle, hok⟩ := hchecks
  have covered : debt ≤ uint256Max := hle.trans (by decide)
  have whole : min uint256Max debt = debt := Nat.min_eq_right covered
  have halves := @repayETH_charges_debt_iff accruedGateway 2592003 uint256Max (10 ^ 20) 2 debt
    .variable Market.alice Market.bob (show (2592003 : Nat) < 2 ^ 40 by decide)
    ⟨by decide, by decide⟩ (by decide +kernel) (.inr (by decide +kernel)) rfl hdebt
  rw [whole] at halves
  obtain ⟨gateway', h, hexact⟩ := (halves.2 (by decide) hle hok).mpr
    ⟨.inr (by decide), fun _ => rfl, fun h => absurd h (by decide)⟩
  exact ⟨gateway', debt, hdebt, h, (halves.1 gateway' h).mpr (.inl covered)⟩

/-- The same with no WETH left in the gateway. -/
def emptyGateway : WETHGateway := accruedGateway.setWETHBalance 50 0

theorem accruedGateway_spends_stray :
    ∃ gateway', accruedGateway.repayETH 2592003 Market.alice (2 * 10 ^ 18) (10 ^ 18) 2 Market.bob =
        .ok gateway' ∧
      gateway'.wethBalanceOf accruedGateway.this + 10 ^ 18 =
        accruedGateway.wethBalanceOf accruedGateway.this := by
  have spent : succeedsWith
      (accruedGateway.repayETH 2592003 Market.alice (2 * 10 ^ 18) (10 ^ 18) 2 Market.bob)
      (fun gateway' => decide (gateway'.wethBalanceOf accruedGateway.this + 10 ^ 18 =
        accruedGateway.wethBalanceOf accruedGateway.this)) = true := by decide +kernel
  obtain ⟨gateway', h, hspent⟩ := succeedsWith_iff.mp spent
  exact ⟨gateway', h, of_decide_eq_true hspent⟩

/-- A value of two ether takes two off the debt when one is to be paid: with WETH that was left in
the gateway, and not at all when there is none. -/
theorem accruedGateway_overspends :
    Reachable .any 2592003 accruedGateway.pool ∧ accruedGateway.OutsideCaller Market.alice ∧
      ∃ debt, accruedGateway.pool.debtOf 2592003 Market.weth .variable Market.bob = .ok debt ∧
        10 ^ 18 ≤ debt ∧
        (∃ gateway',
          accruedGateway.repayETH 2592003 Market.alice (2 * 10 ^ 18) (10 ^ 18) 2 Market.bob =
            .ok gateway' ∧
          ¬ accruedGateway.RepaysExactly gateway' 2592003 .variable Market.alice (2 * 10 ^ 18)
            Market.bob (min (10 ^ 18) debt)) ∧
        ((emptyGateway.wrapped (10 ^ 18)).repay 2592003 50 Market.weth (10 ^ 18) 2
            Market.bob).isOk = true ∧
        (emptyGateway.repayETH 2592003 Market.alice (2 * 10 ^ 18) (10 ^ 18) 2 Market.bob).isOk =
          false := by
  have reachable : Reachable .any 2592003 accruedMarket :=
    Market.endState_reachable (by decide +kernel) (by decide +kernel)
  have debts : succeedsWith
      (accruedGateway.pool.debtOf 2592003 Market.weth .variable Market.bob)
      (fun debt => decide (10 ^ 18 ≤ debt)) = true := by decide +kernel
  obtain ⟨debt, hdebt, hless⟩ := succeedsWith_iff.mp debts
  obtain ⟨gateway', h, hspent⟩ := accruedGateway_spends_stray
  have overspent : ¬ accruedGateway.RepaysExactly gateway' 2592003 .variable Market.alice
      (2 * 10 ^ 18) Market.bob (min (10 ^ 18) debt) := by
    intro exact
    rw [exact.weth, Nat.add_eq_left] at hspent
    exact absurd hspent (by decide)
  have allowed : ((emptyGateway.wrapped (10 ^ 18)).repay 2592003 50 Market.weth (10 ^ 18) 2
      Market.bob).isOk = true := by decide +kernel
  have reverts : (emptyGateway.repayETH 2592003 Market.alice (2 * 10 ^ 18) (10 ^ 18) 2
      Market.bob).isOk = false := by decide +kernel
  exact ⟨reachable, ⟨by decide, by decide⟩, debt, hdebt, of_decide_eq_true hless,
    ⟨gateway', h, overspent⟩, allowed, reverts⟩

end ElectroLend
