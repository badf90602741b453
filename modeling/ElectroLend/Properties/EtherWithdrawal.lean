import ElectroLend.Pool.AccountSums
import ElectroLend.Pool.HandOver
import ElectroLend.Properties.EtherRepayment

namespace ElectroLend

open Outcome

/-- A listed reserve with an index of at least one ray, and with what the widths of its fields and
the block time allow. -/
structure Reserve.InStorage (r : Reserve) (t : Nat) : Prop where
  index : RAY ≤ r.liquidityIndex
  width : r.liquidityIndex ≤ uint128Max
  time : r.lastUpdateTimestamp ≤ t
  id : r.id < 128

namespace LendingPool

variable {pool : LendingPool} {t : Nat} {u : Address}

/-- Nothing is owed in any listed reserve. -/
structure Debtless (pool : LendingPool) (u : Address) : Prop where
  stableDebt : ∀ i, i < pool.reservesCount →
    (pool.reserves (pool.reservesList i)).stableDebtToken.balances u = 0
  variableDebt : ∀ i, i < pool.reservesCount →
    (pool.reserves (pool.reservesList i)).variableDebtToken.balances u = 0

theorem Debtless.debtAt {config : UserConfigurationMap} {i debt : Nat} (h : pool.Debtless u)
    (hi : i < pool.reservesCount) (hdebt : pool.debtAt t u config i = .ok debt) : debt = 0 := by
  simp only [LendingPool.debtAt, reserveDebtInETH, requireContract, require_eq_ok,
    Reserve.stableDebtBalanceOf, Reserve.variableDebtBalanceOf, StableDebtToken.balanceOf,
    VariableDebtToken.balanceOf, IncentivizedERC20.balanceOf, h.stableDebt i hi,
    h.variableDebt i hi, if_true, ite_eq_ok, bind_eq_ok, pure_eq_ok, Except.ok.injEq] at hdebt
  obtain ⟨_, _, ⟨_, _, rfl⟩, _, ⟨_, _, rfl⟩, rfl⟩ | ⟨_, rfl⟩ := hdebt
  · simp
  · rfl

theorem Debtless.handOver {asset v w : Address} {scaled : Nat} (h : pool.Debtless u) :
    (pool.handOver asset v w scaled).Debtless u := by
  refine ⟨?_, ?_⟩
  · intro i hi
    have hdebt := h.stableDebt i hi
    by_cases ha : pool.reservesList i = asset
    · subst ha
      simpa [LendingPool.handOver] using hdebt
    · simpa [LendingPool.handOver, ha] using hdebt
  · intro i hi
    have hdebt := h.variableDebt i hi
    by_cases ha : pool.reservesList i = asset
    · subst ha
      simpa [LendingPool.handOver] using hdebt
    · simpa [LendingPool.handOver, ha] using hdebt

/-- Without debt, a transfer is valid whenever the account can be valued. -/
theorem Debtless.validateTransfer (h : pool.Debtless u) :
    pool.validateTransfer t u = .ok () ↔
      (pool.calculateUserAccountData t u (pool.usersConfig u)).isOk = true := by
  simp only [LendingPool.validateTransfer, bind_eq_ok, require_eq_ok]
  constructor
  · rintro ⟨account, hdata, _⟩
    rw [hdata]
    rfl
  · intro hok
    obtain ⟨account, hdata⟩ := exists_of_isOk hok
    obtain ⟨debts, hdebts, _, htotal, _, _, hhealth⟩ := calculateUserAccountData_eq_ok hdata
    have none : account.totalDebtInETH = 0 := by
      rw [htotal]
      refine Finset.sum_eq_zero fun i hi => ?_
      have hlt := Finset.mem_range.mp hi
      exact h.debtAt hlt (hdebts i hlt)
    rw [calculateHealthFactorFromBalances, if_pos none] at hhealth
    have hmax : account.healthFactor = uint256Max := (Except.ok.inj hhealth).symm
    refine ⟨account, hdata, ?_⟩
    rw [hmax]
    decide

end LendingPool

namespace WETHGateway

/-- The gateway is a contract of its own, which owes nothing, and WETH is backed by ether. -/
structure Deployed (gateway : WETHGateway) : Prop where
  this : gateway.this ≠ 0
  elToken : (gateway.pool.reserves gateway.WETH).elTokenAddress ≠ gateway.this
  treasury : gateway.this ≠ (gateway.pool.reserves gateway.WETH).elToken.treasury
  borrowing : (gateway.pool.usersConfig gateway.this).isBorrowingAny = false
  backed : gateway.wethBalanceOf gateway.this +
    gateway.wethBalanceOf (gateway.pool.reserves gateway.WETH).elTokenAddress ≤
      gateway.ether gateway.WETH
  width : gateway.ether gateway.WETH ≤ uint256Max

/-- The scaled lWETH of an account. -/
def lwethBalanceOf (gateway : WETHGateway) (account : Address) : Nat :=
  (gateway.pool.reserves gateway.WETH).elToken.scaledBalanceOf account

/-- The recipient has `paid` more ether, and the gateway the ether, WETH and lWETH it had. -/
structure PaysOut (gateway gateway' : WETHGateway) (recipient : Address) (paid : Nat) : Prop where
  received : gateway'.ether recipient = gateway.ether recipient + paid
  ether : gateway'.ether gateway.this = gateway.ether gateway.this
  weth : gateway'.wethBalanceOf gateway.this = gateway.wethBalanceOf gateway.this
  lweth : gateway'.lwethBalanceOf gateway.this = gateway.lwethBalanceOf gateway.this

/-- No word overflows when the balances before a transfer to the gateway are valued, and the account
after it. -/
structure CanValue (gateway : WETHGateway) (t : Nat) (user : Address) (paid index : Nat) :
    Prop where
  balance : (rayMul (gateway.lwethBalanceOf user) index).isOk = true
  own : (rayMul (gateway.lwethBalanceOf gateway.this) index).isOk = true
  account : ((gateway.pool.handOver gateway.WETH user gateway.this
    (halfUp (paid * RAY) index)).calculateUserAccountData t user
      (gateway.pool.usersConfig user)).isOk = true

variable {gateway gateway' : WETHGateway} {t amount paid index : Nat}
  {user recipient other : Address} {direct : LendingPool}

/-- WETH pays what it is asked for, so the check of the ether received never fails. -/
theorem withdrawETH_eq_ok
    (hpaid : paid = LendingPool.amountToWithdraw amount (gateway.lwethBalanceOf user)) :
    gateway.withdrawETH t user amount recipient = .ok gateway' ↔
      (gateway.pool.reserves gateway.WETH).elTokenAddress ≠ 0 ∧
      ∃ moved taken pool' unwrapped,
        gateway.pool.elTokenTransferFrom t gateway.this gateway.WETH user gateway.this paid =
          .ok moved ∧
        moved.withdraw t gateway.this gateway.WETH paid gateway.this = .ok (taken, pool') ∧
        (gateway.setPool pool').wethWithdraw paid = .ok unwrapped ∧
        unwrapped.safeTransferETH recipient paid = .ok gateway' := by
  subst hpaid
  simp only [withdrawETH, Reserve.elTokenBalanceOf, requireContract, bind_eq_ok, require_eq_ok,
    pure_eq_ok, Prod.exists]
  constructor
  · rintro ⟨_, ⟨_, hcontract, rfl⟩, moved, hmoved, taken, pool', hwithdraw, unwrapped, hunwrap, _, _,
      hsend⟩
    exact ⟨hcontract, moved, taken, pool', unwrapped, hmoved, hwithdraw, hunwrap, hsend⟩
  · rintro ⟨hcontract, moved, taken, pool', unwrapped, hmoved, hwithdraw, hunwrap, hsend⟩
    refine ⟨_, ⟨(), hcontract, rfl⟩, moved, hmoved, taken, pool', hwithdraw, unwrapped, hunwrap, (), ?_,
      hsend⟩
    obtain ⟨_, rfl⟩ := wethWithdraw_eq_ok.mp hunwrap
    simp only [setEther_ether, setEther_this, setWETHBalance_this, setPool_this, setPool_ether,
      Function.update_self]
    exact Nat.le_of_eq (Nat.add_sub_cancel_left _ _).symm

theorem unwrapped_paysOut {pool' : LendingPool} {unwrapped : WETHGateway}
    (hne : recipient ≠ gateway.WETH)
    (hweth : (gateway.setPool pool').wethBalanceOf gateway.this =
      gateway.wethBalanceOf gateway.this + paid)
    (hlweth : (gateway.setPool pool').lwethBalanceOf gateway.this =
      gateway.lwethBalanceOf gateway.this)
    (hunwrap : (gateway.setPool pool').wethWithdraw paid = .ok unwrapped)
    (hsend : unwrapped.safeTransferETH recipient paid = .ok gateway') :
    gateway.PaysOut gateway' recipient paid := by
  obtain ⟨⟨_, hether⟩, rfl⟩ := wethWithdraw_eq_ok.mp hunwrap
  obtain ⟨⟨hself, _⟩, _, rfl⟩ := (safeTransferETH_eq_ok (by exact hne)).mp hsend
  have hself : recipient ≠ gateway.this := hself
  refine ⟨?_, ?_, ?_, ?_⟩
  · simp [hne, hself]
  · simp [hself.symm]
  · have hleft : (gateway.setPool pool').wethBalanceOf gateway.this - paid =
        gateway.wethBalanceOf gateway.this := by omega
    rw [← hleft]
    simp [wethBalanceOf, ERC20.balanceOf]
  · exact hlweth

/-- WETH that the gateway holds, and that is backed by ether, reaches a recipient who takes it. -/
theorem exists_unwrapped (hweth : paid ≤ gateway.wethBalanceOf gateway.this)
    (hbacked : paid ≤ gateway.ether gateway.WETH)
    (accepts : gateway.acceptsEther recipient = true) (hself : recipient ≠ gateway.this)
    (hne : recipient ≠ gateway.WETH) :
    ∃ unwrapped gateway', gateway.wethWithdraw paid = .ok unwrapped ∧
      unwrapped.safeTransferETH recipient paid = .ok gateway' := by
  refine ⟨_, _, wethWithdraw_eq_ok.mpr ⟨⟨hweth, hbacked⟩, rfl⟩,
    (safeTransferETH_eq_ok (by exact hne)).mpr ⟨⟨hself, accepts⟩, ?_, rfl⟩⟩
  simp

theorem unwrapped_to_WETH {pool' : LendingPool} {unwrapped : WETHGateway} (hpos : paid ≠ 0)
    (hunwrap : (gateway.setPool pool').wethWithdraw paid = .ok unwrapped)
    (hsend : unwrapped.safeTransferETH gateway.WETH paid = .ok gateway') :
    ¬ gateway.PaysOut gateway' gateway.WETH paid := by
  obtain ⟨⟨_, hether⟩, rfl⟩ := wethWithdraw_eq_ok.mp hunwrap
  simp only [safeTransferETH, setEther_WETH, setWETHBalance_WETH, setPool_WETH, if_true,
    mapError_eq_ok] at hsend
  obtain ⟨_, rfl⟩ := wethDeposit_eq_ok.mp hsend
  intro paysOut
  have hreceived := paysOut.received
  simp [gateway.this_ne_WETH.symm] at hreceived hether
  omega

/-- The gateway withdraws what the units passed on to it cover, and burns them again. -/
theorem gateway_withdraws {moved pool' : LendingPool} {taken scaled : Nat}
    (deployed : gateway.Deployed)
    (hindex : (gateway.pool.reserves gateway.WETH).nextLiquidityIndex t = .ok index)
    (hd : rayDiv paid index = .ok scaled)
    (handed : gateway.pool.HandedOver moved gateway.WETH user gateway.this scaled)
    (h : moved.withdraw t gateway.this gateway.WETH paid gateway.this = .ok (taken, pool')) :
    paid ≤ gateway.lwethBalanceOf gateway.this + scaled ∧
      (gateway.setPool pool').wethBalanceOf gateway.this =
        gateway.wethBalanceOf gateway.this + paid ∧
      (gateway.setPool pool').lwethBalanceOf gateway.this =
        gateway.lwethBalanceOf gateway.this := by
  obtain ⟨htaken, _, hle, index', minted, scaled', hindex', hd', _, hminted, _, hbalance, _, _,
    hmove⟩ := LendingPool.withdraw_effect h
  rw [LendingPool.amountToWithdraw_scalable hd] at htaken
  subst htaken
  rw [handed.reserve] at hindex'
  cases ok_unique hindex hindex'
  cases ok_unique hd hd'
  rw [handed.received] at hle hbalance
  have htreasury : gateway.this ≠ (moved.reserves gateway.WETH).elToken.treasury := by
    rw [handed.treasury]
    exact deployed.treasury
  rw [hminted htreasury] at hbalance
  have haddress : (moved.reserves gateway.WETH).elTokenAddress =
      (gateway.pool.reserves gateway.WETH).elTokenAddress := by
    rw [handed.reserve]
  rw [haddress, handed.tokens] at hmove
  refine ⟨hle, moveBalance_recipient deployed.elToken hmove, ?_⟩
  exact hbalance.trans (by simp [lwethBalanceOf, ELToken.scaledBalanceOf])

end WETHGateway

open WETHGateway

/-- The gateway to a market in which nothing has earned interest. -/
def freshGateway : WETHGateway := accruedGateway.setPool (Market.endState (Market.setup 1000 ++
  [(1, Market.alice, .deposit Market.weth (10 ^ 20) Market.alice),
    (2, Market.alice, .elTokenApprove Market.weth 50 (10 ^ 30))]))

/-- The same a month after bob has borrowed from it. -/
def monthMarket : LendingPool :=
  Market.endState (Market.setup 1000 ++
    [(1, Market.alice, .deposit Market.weth (10 ^ 20) Market.alice),
      (1, Market.alice, .elTokenApprove Market.weth 50 (10 ^ 30)),
      (2, Market.bob, .deposit Market.dai (10 ^ 20) Market.bob),
      (3, Market.bob, .borrow Market.weth (5 * 10 ^ 19) 2 Market.bob),
      (2592003, Market.carol, .deposit Market.weth (10 ^ 21) Market.carol)])

end ElectroLend
