import ElectroLend.Pool.LendingPool

namespace ElectroLend

open Outcome

/-- Ether moved from one account to another; nobody can send more than he has. -/
def moveEther (ether : Address → Nat) (sender recipient : Address) (value : Nat) :
    Result (Address → Nat) := do
  require (value ≤ ether sender) .outOfFunds
  let taken := Function.update ether sender (ether sender - value)
  pure (Function.update taken recipient (taken recipient + value))

theorem moveEther_eq_ok {ether ether' : Address → Nat} {sender recipient : Address} {value : Nat}
    (hne : sender ≠ recipient) :
    moveEther ether sender recipient value = .ok ether' ↔ value ≤ ether sender ∧
      Function.update (Function.update ether sender (ether sender - value)) recipient
        (ether recipient + value) = ether' := by
  simp only [moveEther, bind_eq_ok, require_eq_ok, pure_eq_ok, exists_const,
    Function.update_of_ne hne.symm]

/-- The gateway and what it acts on: a pool, the ether of every account, and which of them take
ether that is sent to them. WETH is the underlying of that name in the pool; it stands for as much
ether as its contract holds. -/
structure WETHGateway where
  this : Address
  WETH : Address
  pool : LendingPool
  ether : Address → Nat
  acceptsEther : Address → Bool
  this_ne_WETH : this ≠ WETH

namespace WETHGateway

@[simps] def setPool (gateway : WETHGateway) (pool : LendingPool) : WETHGateway :=
  { gateway with pool }

@[simps] def setEther (gateway : WETHGateway) (ether : Address → Nat) : WETHGateway :=
  { gateway with ether }

variable (gateway : WETHGateway) (blockTimestamp : Nat)

def wethBalanceOf (account : Address) : Nat := (gateway.pool.tokens gateway.WETH).balanceOf account

@[simps! this WETH pool ether acceptsEther]
def setWETHBalance (account : Address) (balance : Nat) : WETHGateway :=
  let token := gateway.pool.tokens gateway.WETH
  gateway.setPool (gateway.pool.setToken gateway.WETH
    { token with balances := Function.update token.balances account balance })

def wethDeposit (account : Address) (value : Nat) : Result WETHGateway := do
  let ether ← moveEther gateway.ether account gateway.WETH value
  pure ((gateway.setWETHBalance account (gateway.wethBalanceOf account + value)).setEther ether)

/-- `WETH.withdraw(wad)` of the gateway, whose `receive` takes ether from WETH only. -/
def wethWithdraw (wad : Nat) : Result WETHGateway := do
  require (wad ≤ gateway.wethBalanceOf gateway.this) .wethRequireFailed
  let ether ← moveEther gateway.ether gateway.WETH gateway.this wad
  pure ((gateway.setWETHBalance gateway.this
    (gateway.wethBalanceOf gateway.this - wad)).setEther ether)

theorem wethDeposit_eq_ok {gateway gateway' : WETHGateway} {value : Nat} :
    gateway.wethDeposit gateway.this value = .ok gateway' ↔ value ≤ gateway.ether gateway.this ∧
      gateway' = (gateway.setWETHBalance gateway.this
        (gateway.wethBalanceOf gateway.this + value)).setEther (Function.update
          (Function.update gateway.ether gateway.this (gateway.ether gateway.this - value))
          gateway.WETH (gateway.ether gateway.WETH + value)) := by
  simp only [wethDeposit, bind_eq_ok, pure_eq_ok]
  constructor
  · rintro ⟨ether, hmove, rfl⟩
    obtain ⟨hle, rfl⟩ := (moveEther_eq_ok gateway.this_ne_WETH).mp hmove
    exact ⟨hle, rfl⟩
  · rintro ⟨hle, rfl⟩
    exact ⟨_, (moveEther_eq_ok gateway.this_ne_WETH).mpr ⟨hle, rfl⟩, rfl⟩

theorem wethWithdraw_eq_ok {gateway gateway' : WETHGateway} {wad : Nat} :
    gateway.wethWithdraw wad = .ok gateway' ↔
      (wad ≤ gateway.wethBalanceOf gateway.this ∧ wad ≤ gateway.ether gateway.WETH) ∧
      gateway' = (gateway.setWETHBalance gateway.this
        (gateway.wethBalanceOf gateway.this - wad)).setEther (Function.update
          (Function.update gateway.ether gateway.WETH (gateway.ether gateway.WETH - wad))
          gateway.this (gateway.ether gateway.this + wad)) := by
  simp only [wethWithdraw, bind_eq_ok, require_eq_ok, pure_eq_ok, exists_const]
  constructor
  · rintro ⟨hle, ether, hmove, rfl⟩
    obtain ⟨hether, rfl⟩ := (moveEther_eq_ok gateway.this_ne_WETH.symm).mp hmove
    exact ⟨⟨hle, hether⟩, rfl⟩
  · rintro ⟨⟨hle, hether⟩, rfl⟩
    exact ⟨hle, _, (moveEther_eq_ok gateway.this_ne_WETH.symm).mpr ⟨hether, rfl⟩, rfl⟩

/-- `_safeTransferETH`: ether sent to WETH is deposited for the gateway, and the gateway itself
takes none from anyone else. -/
def safeTransferETH (recipient : Address) (value : Nat) : Result WETHGateway :=
  if recipient = gateway.WETH then
    (gateway.wethDeposit gateway.this value).mapError fun _ => .ethTransferFailed
  else do
    require (recipient ≠ gateway.this ∧ gateway.acceptsEther recipient) .ethTransferFailed
    let ether ← (moveEther gateway.ether gateway.this recipient value).mapError
      fun _ => .ethTransferFailed
    pure (gateway.setEther ether)

theorem safeTransferETH_eq_ok {gateway gateway' : WETHGateway} {recipient : Address} {value : Nat}
    (hne : recipient ≠ gateway.WETH) :
    gateway.safeTransferETH recipient value = .ok gateway' ↔
      (recipient ≠ gateway.this ∧ gateway.acceptsEther recipient = true) ∧
        value ≤ gateway.ether gateway.this ∧
        gateway' = gateway.setEther (Function.update
          (Function.update gateway.ether gateway.this (gateway.ether gateway.this - value))
          recipient (gateway.ether recipient + value)) := by
  simp only [safeTransferETH, if_neg hne, bind_eq_ok, require_eq_ok, mapError_eq_ok, pure_eq_ok,
    exists_const]
  constructor
  · rintro ⟨⟨hself, haccepts⟩, ether, hmove, rfl⟩
    obtain ⟨hle, rfl⟩ := (moveEther_eq_ok (Ne.symm hself)).mp hmove
    exact ⟨⟨hself, haccepts⟩, hle, rfl⟩
  · rintro ⟨⟨hself, haccepts⟩, hle, rfl⟩
    exact ⟨⟨hself, haccepts⟩, _, (moveEther_eq_ok (Ne.symm hself)).mpr ⟨hle, rfl⟩, rfl⟩

/-- The ether that a payable call brings along. -/
def receiveValue (msgSender : Address) (msgValue : Nat) : Result WETHGateway := do
  let ether ← moveEther gateway.ether msgSender gateway.this msgValue
  pure (gateway.setEther ether)

theorem receiveValue_eq_ok {gateway gateway' : WETHGateway} {msgSender : Address} {msgValue : Nat}
    (hne : msgSender ≠ gateway.this) :
    gateway.receiveValue msgSender msgValue = .ok gateway' ↔ msgValue ≤ gateway.ether msgSender ∧
      gateway' = gateway.setEther (Function.update
        (Function.update gateway.ether msgSender (gateway.ether msgSender - msgValue))
        gateway.this (gateway.ether gateway.this + msgValue)) := by
  simp only [receiveValue, bind_eq_ok, pure_eq_ok]
  constructor
  · rintro ⟨ether, hmove, rfl⟩
    obtain ⟨hle, rfl⟩ := (moveEther_eq_ok hne).mp hmove
    exact ⟨hle, rfl⟩
  · rintro ⟨hle, rfl⟩
    exact ⟨_, (moveEther_eq_ok hne).mpr ⟨hle, rfl⟩, rfl⟩

def depositETH (msgSender : Address) (msgValue : Nat) (onBehalfOf : Address) :
    Result WETHGateway := do
  let gateway ← gateway.receiveValue msgSender msgValue
  let gateway ← gateway.wethDeposit gateway.this msgValue
  let pool ← gateway.pool.deposit blockTimestamp gateway.this gateway.WETH msgValue onBehalfOf
  pure (gateway.setPool pool)

/-- `transferFrom` of the elToken returns `true` or reverts. The balance it moves is a scaled one,
and so is the `userBalance`. -/
def withdrawETH (msgSender : Address) (amount : Nat) (recipient : Address) :
    Result WETHGateway := do
  let userBalance ← (gateway.pool.reserves gateway.WETH).elTokenBalanceOf msgSender
  let amountToWithdraw := LendingPool.amountToWithdraw amount userBalance
  let pool ← gateway.pool.elTokenTransferFrom blockTimestamp gateway.this gateway.WETH msgSender
    gateway.this amountToWithdraw
  let (_, pool) ← pool.withdraw blockTimestamp gateway.this gateway.WETH amountToWithdraw
    gateway.this
  let gateway := gateway.setPool pool
  let ethBalanceBeforeWithdraw := gateway.ether gateway.this
  let gateway ← gateway.wethWithdraw amountToWithdraw
  let ethBalanceAfterWithdraw := gateway.ether gateway.this
  require (amountToWithdraw ≤ ethBalanceAfterWithdraw - ethBalanceBeforeWithdraw)
    .withdrawEthBalanceInconsistent
  gateway.safeTransferETH recipient amountToWithdraw

/-- The payback is wrapped, but it is `msg.value` that the pool is asked to take. -/
def repayETH (msgSender : Address) (msgValue amount rateMode : Nat) (onBehalfOf : Address) :
    Result WETHGateway := do
  let gateway ← gateway.receiveValue msgSender msgValue
  let (stableDebt, variableDebt) ←
    (gateway.pool.reserves gateway.WETH).getUserCurrentDebt blockTimestamp onBehalfOf
  let interestRateMode ← InterestRateMode.fromNat rateMode
  let paybackAmount := LendingPool.paybackAmount amount stableDebt variableDebt interestRateMode
  require (paybackAmount ≤ msgValue) .msgValueLessThanRepayment
  let gateway ← gateway.wethDeposit gateway.this paybackAmount
  let (_, pool) ← gateway.pool.repay blockTimestamp gateway.this gateway.WETH msgValue rateMode
    onBehalfOf
  let gateway := gateway.setPool pool
  if paybackAmount < msgValue then
    gateway.safeTransferETH msgSender (msgValue - paybackAmount)
  else .ok gateway

def borrowETH (msgSender : Address) (amount interestRateMode : Nat) : Result WETHGateway := do
  let pool ← gateway.pool.borrow blockTimestamp gateway.this gateway.WETH amount interestRateMode
    msgSender
  let gateway := gateway.setPool pool
  let gateway ← gateway.wethWithdraw amount
  gateway.safeTransferETH msgSender amount

end WETHGateway

end ElectroLend
