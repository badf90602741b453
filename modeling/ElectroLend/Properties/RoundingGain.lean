import ElectroLend.Library.ScaledDraws
import ElectroLend.Pool.ScaledUnits
import ElectroLend.Properties.Withdrawal

namespace ElectroLend

open Outcome

namespace LendingPool

/-- The withdrawals of one user in the block at `t`, counted, with the total they paid. In between
anything may happen that leaves his elTokens and the liquidity index alone. -/
inductive Withdrawals (t : Nat) (asset u : Address) (start : LendingPool) :
    Nat → Nat → LendingPool → Prop
  | start : Withdrawals t asset u start 0 0 start
  | withdraw {n paid more amount : Nat} {recipient : Address} {pool pool' : LendingPool} :
      Withdrawals t asset u start n paid pool →
      pool.withdraw t u asset amount recipient = .ok (more, pool') →
      Withdrawals t asset u start (n + 1) (paid + more) pool'
  | others {n paid : Nat} {pool pool' : LendingPool} :
      Withdrawals t asset u start n paid pool → pool.SameIndexes pool' asset →
      (pool'.reserves asset).elToken.balances u = (pool.reserves asset).elToken.balances u →
      Withdrawals t asset u start n paid pool'

/-- The variable repayments for one debtor in the block at `t`, counted, with the total they cost.
In between anything may happen that leaves his debt and the borrow index alone. -/
inductive Repayments (t : Nat) (asset u : Address) (start : LendingPool) :
    Nat → Nat → LendingPool → Prop
  | start : Repayments t asset u start 0 0 start
  | repay {n cost more amount : Nat} {msgSender : Address} {pool pool' : LendingPool} :
      Repayments t asset u start n cost pool →
      pool.repay t msgSender asset amount 2 u = .ok (more, pool') →
      Repayments t asset u start (n + 1) (cost + more) pool'
  | others {n cost : Nat} {pool pool' : LendingPool} :
      Repayments t asset u start n cost pool → pool.SameIndexes pool' asset →
      (pool'.reserves asset).variableDebtToken.balances u =
        (pool.reserves asset).variableDebtToken.balances u →
      Repayments t asset u start n cost pool'

open ScaledDraws

variable {start pool : LendingPool} {t n paid cost : Nat} {asset u : Address}

theorem draw_of_rayDiv {units left drawn amount index scaled : Nat}
    (hd : rayDiv amount index = .ok scaled) (hunits : units = left + scaled) :
    Draw RAY index (units, drawn) (left, drawn + amount) := by
  obtain ⟨_, rfl⟩ := rayDiv_eq_ok.mp hd
  exact ⟨amount, hunits, rfl⟩

theorem Withdrawals.draws (ht : IsBlockTimestamp t)
    (hlast : (start.reserves asset).lastUpdateTimestamp = t)
    (run : Withdrawals t asset u start n paid pool) :
    start.SameIndexes pool asset ∧
      Runs.Steps (fun _ => Draw RAY (start.reserves asset).liquidityIndex)
        ((start.reserves asset).elToken.balances u, 0) n
        ((pool.reserves asset).elToken.balances u, paid) := by
  induction run with
  | start => exact ⟨.of_reserves rfl asset, .refl⟩
  | withdraw _ h ih =>
    obtain ⟨same, draws⟩ := ih
    obtain ⟨kept, scaled, hd, hunits⟩ := withdraw_units ht (same.timestamp.trans hlast) h
    rw [same.liquidityIndex] at hd
    exact ⟨same.trans kept, draws.tail (draw_of_rayDiv hd hunits)⟩
  | others _ kept hunits ih =>
    obtain ⟨same, draws⟩ := ih
    rw [hunits]
    exact ⟨same.trans kept, draws⟩

theorem Repayments.draws (ht : IsBlockTimestamp t)
    (hlast : (start.reserves asset).lastUpdateTimestamp = t)
    (run : Repayments t asset u start n cost pool) :
    start.SameIndexes pool asset ∧
      Runs.Steps (fun _ => Draw RAY (start.reserves asset).variableBorrowIndex)
        ((start.reserves asset).variableDebtToken.balances u, 0) n
        ((pool.reserves asset).variableDebtToken.balances u, cost) := by
  induction run with
  | start => exact ⟨.of_reserves rfl asset, .refl⟩
  | repay _ h ih =>
    obtain ⟨same, draws⟩ := ih
    obtain ⟨kept, scaled, hd, hunits⟩ := repay_units ht (same.timestamp.trans hlast) h
    rw [same.variableBorrowIndex] at hd
    exact ⟨same.trans kept, draws.tail (draw_of_rayDiv hd hunits)⟩
  | others _ kept hunits ih =>
    obtain ⟨same, draws⟩ := ih
    rw [hunits]
    exact ⟨same.trans kept, draws⟩

end LendingPool

open LendingPool ScaledDraws

/-- Twice the amount in rays: each of the `n + 1` roundings is off by half an index at most, and by
nothing while the index is one ray. -/
theorem rounding_gain_bounded {pool start pool' : LendingPool} {t x n total : Nat}
    {asset msgSender u : Address} (ht : IsBlockTimestamp t) :
    (u ≠ (pool.reserves asset).elToken.treasury →
      (pool.reserves asset).elToken.scaledBalanceOf u = 0 →
      pool.deposit t msgSender asset x u = .ok start →
      Withdrawals t asset u start n total pool' →
      2 * (total * RAY) ≤
        2 * (x * RAY) + (n + 1) * slack RAY (start.reserves asset).liquidityIndex) ∧
    ((pool.reserves asset).variableDebtToken.scaledBalanceOf u = 0 →
      pool.borrow t msgSender asset x 2 u = .ok start →
      Repayments t asset u start n total pool' →
      (pool'.reserves asset).variableDebtToken.scaledBalanceOf u = 0 →
      2 * (x * RAY) ≤
        2 * (total * RAY) + (n + 1) * slack RAY (start.reserves asset).variableBorrowIndex) := by
  constructor
  · intro hu hempty hdeposit run
    simp only [ELToken.scaledBalanceOf] at hempty
    obtain ⟨scaled, hd, hunits, htime⟩ := deposit_units hu hdeposit
    obtain ⟨_, draws⟩ := run.draws ht (htime.trans ht.uint40)
    obtain ⟨⟨hpos, _⟩, rfl⟩ := rayDiv_eq_ok.mp hd
    rw [hunits, hempty, Nat.zero_add] at draws
    obtain ⟨drawn, _⟩ := draws_bounds (by omega) draws
    obtain ⟨worth, _⟩ := @scaled_bounds RAY _ (Nat.pos_of_ne_zero hpos) x
    rw [Nat.add_mul n 1]
    omega
  · intro hempty hborrow run hclear
    simp only [VariableDebtToken.scaledBalanceOf] at hempty hclear
    obtain ⟨scaled, hd, hunits, htime⟩ := borrow_units hborrow
    obtain ⟨_, draws⟩ := run.draws ht (htime.trans ht.uint40)
    obtain ⟨⟨hpos, _⟩, rfl⟩ := rayDiv_eq_ok.mp hd
    rw [hunits, hempty, Nat.zero_add, hclear] at draws
    obtain ⟨_, drawn⟩ := draws_bounds (by omega) draws
    obtain ⟨_, worth⟩ := @scaled_bounds RAY _ (Nat.pos_of_ne_zero hpos) x
    rw [Nat.add_mul n 1]
    omega

namespace Market

def dave : Address := 13

end Market

/-- Dave puts 1084 in and takes 542, 542 and 1 out. -/
theorem accruedMarket_deposit_gains :
    ∃ start pool', accruedMarket.deposit 2592003 Market.dave Market.weth 1084 Market.dave =
        .ok start ∧
      Withdrawals 2592003 Market.weth Market.dave start 3 (542 + 542 + 1) pool' := by
  have success : succeedsWith (do
      let start ← accruedMarket.deposit 2592003 Market.dave Market.weth 1084 Market.dave
      let first ← start.withdraw 2592003 Market.dave Market.weth 542 Market.dave
      let second ← first.2.withdraw 2592003 Market.dave Market.weth 542 Market.dave
      let third ← second.2.withdraw 2592003 Market.dave Market.weth 1 Market.dave
      pure (first.1, second.1, third.1))
      (fun paid => decide (paid = (542, 542, 1))) = true := by decide +kernel
  obtain ⟨⟨first, second, third⟩, hrun, hpaid⟩ := succeedsWith_iff.mp success
  simp only [bind_eq_ok, Prod.exists, pure_eq_ok, Prod.mk.injEq, decide_eq_true_eq] at hrun hpaid
  obtain ⟨start, hdeposit, _, p₁, h₁, _, p₂, h₂, _, p₃, h₃, rfl, rfl, rfl⟩ := hrun
  obtain ⟨rfl, rfl, rfl⟩ := hpaid
  have drawn := ((Withdrawals.start.withdraw h₁).withdraw h₂).withdraw h₃
  rw [Nat.zero_add] at drawn
  exact ⟨start, p₃, hdeposit, drawn⟩

/-- Dave borrows 244 and is rid of the debt for 243. -/
theorem accruedMarket_loan_gains :
    ∃ opened start pool',
      accruedMarket.deposit 2592003 Market.dave Market.dai (10 ^ 20) Market.dave = .ok opened ∧
      RAY ≤ (opened.reserves Market.weth).variableBorrowIndex ∧
      (opened.reserves Market.weth).variableDebtToken.scaledBalanceOf Market.dave = 0 ∧
      opened.borrow 2592003 Market.dave Market.weth 244 2 Market.dave = .ok start ∧
      Repayments 2592003 Market.weth Market.dave start 1 243 pool' ∧
      (pool'.reserves Market.weth).variableDebtToken.scaledBalanceOf Market.dave = 0 := by
  have success : succeedsWith (do
      let opened ← accruedMarket.deposit 2592003 Market.dave Market.dai (10 ^ 20) Market.dave
      let start ← opened.borrow 2592003 Market.dave Market.weth 244 2 Market.dave
      let cleared ← start.repay 2592003 Market.dave Market.weth 243 2 Market.dave
      pure (opened, cleared))
      (fun run => decide (RAY ≤ (run.1.reserves Market.weth).variableBorrowIndex ∧
        (run.1.reserves Market.weth).variableDebtToken.scaledBalanceOf Market.dave = 0 ∧
        run.2.1 = 243 ∧
        (run.2.2.reserves Market.weth).variableDebtToken.scaledBalanceOf Market.dave = 0)) =
        true := by decide +kernel
  obtain ⟨_, hrun, hafter⟩ := succeedsWith_iff.mp success
  simp only [bind_eq_ok, Prod.exists, pure_eq_ok, decide_eq_true_eq] at hrun hafter
  obtain ⟨opened, hdeposit, start, hborrow, _, pool', hrepay, rfl⟩ := hrun
  obtain ⟨hindex, hempty, rfl, hclear⟩ := hafter
  have repaid := Repayments.start.repay hrepay
  rw [Nat.zero_add] at repaid
  exact ⟨opened, start, pool', hdeposit, hindex, hempty, hborrow, repaid, hclear⟩

/-- One unit is won by withdrawing, and one by repaying. -/
theorem accruedMarket_rounding_gains :
    Reachable .any 2592003 accruedMarket ∧
      RAY ≤ (accruedMarket.reserves Market.weth).liquidityIndex ∧
      Market.dave ≠ (accruedMarket.reserves Market.weth).elToken.treasury ∧
      (accruedMarket.reserves Market.weth).elToken.scaledBalanceOf Market.dave = 0 ∧
      (∃ start pool' paid,
        accruedMarket.deposit 2592003 Market.dave Market.weth 1084 Market.dave = .ok start ∧
        Withdrawals 2592003 Market.weth Market.dave start 3 paid pool' ∧ 1084 < paid) ∧
      ∃ opened start pool' cost,
        accruedMarket.deposit 2592003 Market.dave Market.dai (10 ^ 20) Market.dave = .ok opened ∧
        RAY ≤ (opened.reserves Market.weth).variableBorrowIndex ∧
        (opened.reserves Market.weth).variableDebtToken.scaledBalanceOf Market.dave = 0 ∧
        opened.borrow 2592003 Market.dave Market.weth 244 2 Market.dave = .ok start ∧
        Repayments 2592003 Market.weth Market.dave start 1 cost pool' ∧
        (pool'.reserves Market.weth).variableDebtToken.scaledBalanceOf Market.dave = 0 ∧
        cost < 244 := by
  refine ⟨Market.endState_reachable (by decide +kernel) (by decide +kernel), by decide +kernel,
    by decide +kernel, by decide +kernel, ?_, ?_⟩
  · obtain ⟨start, pool', hdeposit, run⟩ := accruedMarket_deposit_gains
    exact ⟨start, pool', _, hdeposit, run, by decide⟩
  · obtain ⟨opened, start, pool', hdeposit, hindex, hempty, hborrow, run, hclear⟩ :=
      accruedMarket_loan_gains
    exact ⟨opened, start, pool', 243, hdeposit, hindex, hempty, hborrow, run, hclear, by decide⟩

/-- The two gains are within the bounds. -/
theorem accruedMarket_rounding_gain_bounded :
    ∃ start opened start' : LendingPool,
      accruedMarket.deposit 2592003 Market.dave Market.weth 1084 Market.dave = .ok start ∧
      2 * (1085 * RAY) ≤
        2 * (1084 * RAY) + 4 * slack RAY (start.reserves Market.weth).liquidityIndex ∧
      opened.borrow 2592003 Market.dave Market.weth 244 2 Market.dave = .ok start' ∧
      2 * (244 * RAY) ≤
        2 * (243 * RAY) + 2 * slack RAY (start'.reserves Market.weth).variableBorrowIndex := by
  have ht : IsBlockTimestamp 2592003 := show (2592003 : Nat) < 2 ^ 40 by decide
  obtain ⟨start, pool', hdeposit, run⟩ := accruedMarket_deposit_gains
  obtain ⟨opened, start', _, _, _, hempty, hborrow, run', hclear⟩ := accruedMarket_loan_gains
  exact ⟨start, opened, start', hdeposit,
    (rounding_gain_bounded ht).1 (by decide +kernel) (by decide +kernel) hdeposit run, hborrow,
    (rounding_gain_bounded ht).2 hempty hborrow run' hclear⟩

end ElectroLend
