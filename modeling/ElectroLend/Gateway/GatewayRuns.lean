import ElectroLend.Gateway.WETHGateway
import ElectroLend.Governance.UpgradeabilityProxy
import ElectroLend.Pool.RuledRuns

namespace ElectroLend

open Outcome LendingPool

structure OwnedGateway where
  owner : Address
  gateway : WETHGateway

inductive GatewayErrors
  | ownable (e : GovernanceErrors)
  | call (e : Errors)
  deriving DecidableEq

def GatewayErrors.message : GatewayErrors → String
  | ownable e => e.message
  | call e => e.message

abbrev GatewayResult (α : Type) := Except GatewayErrors α

/-- The functions of the gateway, where `lendingPool` is the pool; `authorizeLendingPool` approves any
address. The token of an emergency transfer is an underlying or an elToken. -/
inductive GatewayCall
  | depositETH (msgValue : Nat) (onBehalfOf : Address)
  | withdrawETH (amount : Nat) (recipient : Address)
  | repayETH (msgValue amount rateMode : Nat) (onBehalfOf : Address)
  | borrowETH (amount interestRateMode : Nat)
  | authorizeLendingPool (lendingPool : Address)
  | emergencyTokenTransfer (asset recipient : Address) (amount : Nat)
  | emergencyELTokenTransfer (asset recipient : Address) (amount : Nat)
  | emergencyEtherTransfer (recipient : Address) (amount : Nat)
  | transferOwnership (newOwner : Address)
  | renounceOwnership

namespace OwnedGateway

variable (g : OwnedGateway) (blockTimestamp : Nat) (msgSender : Address)

def onlyOwner : GatewayResult Unit :=
  require (g.owner = msgSender) (.ownable .callerIsNotTheOwner)

def callPool (call : Call) : GatewayResult OwnedGateway := do
  let pool ← (call.exec blockTimestamp g.gateway.this g.gateway.pool).mapError .call
  pure { g with gateway := g.gateway.setPool pool }

def withGateway (result : Result WETHGateway) : GatewayResult OwnedGateway := do
  let gateway ← result.mapError .call
  pure { g with gateway }

def exec : GatewayCall → GatewayResult OwnedGateway
  | .depositETH msgValue onBehalfOf =>
    g.withGateway (g.gateway.depositETH blockTimestamp msgSender msgValue onBehalfOf)
  | .withdrawETH amount recipient =>
    g.withGateway (g.gateway.withdrawETH blockTimestamp msgSender amount recipient)
  | .repayETH msgValue amount rateMode onBehalfOf =>
    g.withGateway (g.gateway.repayETH blockTimestamp msgSender msgValue amount rateMode onBehalfOf)
  | .borrowETH amount interestRateMode =>
    g.withGateway (g.gateway.borrowETH blockTimestamp msgSender amount interestRateMode)
  | .authorizeLendingPool lendingPool => do
    g.onlyOwner msgSender
    g.callPool blockTimestamp (.approve g.gateway.WETH lendingPool uint256Max)
  | .emergencyTokenTransfer asset recipient amount => do
    g.onlyOwner msgSender
    g.callPool blockTimestamp (.transfer asset recipient amount)
  | .emergencyELTokenTransfer asset recipient amount => do
    g.onlyOwner msgSender
    g.callPool blockTimestamp (.elTokenTransfer asset recipient amount)
  | .emergencyEtherTransfer recipient amount => do
    g.onlyOwner msgSender
    g.withGateway (g.gateway.safeTransferETH recipient amount)
  | .transferOwnership newOwner => do
    g.onlyOwner msgSender
    require (newOwner ≠ 0) (.ownable .newOwnerIsTheZeroAddress)
    pure { g with owner := newOwner }
  | .renounceOwnership => do
    g.onlyOwner msgSender
    pure { g with owner := 0 }

end OwnedGateway

/-- The calls that a function of the gateway makes for its caller. -/
inductive GatewayCall.Makes (gateway : WETHGateway) (msgSender : Address) : GatewayCall → Call → Prop
  | deposit (msgValue : Nat) (onBehalfOf : Address) :
      Makes gateway msgSender (.depositETH msgValue onBehalfOf)
        (.deposit gateway.WETH msgValue onBehalfOf)
  | transferFrom (amount taken : Nat) (recipient : Address) :
      Makes gateway msgSender (.withdrawETH amount recipient)
        (.elTokenTransferFrom gateway.WETH msgSender gateway.this taken)
  | withdraw (amount taken : Nat) (recipient : Address) :
      Makes gateway msgSender (.withdrawETH amount recipient)
        (.withdraw gateway.WETH taken gateway.this)
  | repay (msgValue amount rateMode : Nat) (onBehalfOf : Address) :
      Makes gateway msgSender (.repayETH msgValue amount rateMode onBehalfOf)
        (.repay gateway.WETH msgValue rateMode onBehalfOf)
  | borrow (amount interestRateMode : Nat) :
      Makes gateway msgSender (.borrowETH amount interestRateMode)
        (.borrow gateway.WETH amount interestRateMode msgSender)
  | approve (lendingPool : Address) : Makes gateway msgSender (.authorizeLendingPool lendingPool)
      (.approve gateway.WETH lendingPool uint256Max)
  | transfer (asset recipient : Address) (amount : Nat) :
      Makes gateway msgSender (.emergencyTokenTransfer asset recipient amount)
        (.transfer asset recipient amount)
  | elTokenTransfer (asset recipient : Address) (amount : Nat) :
      Makes gateway msgSender (.emergencyELTokenTransfer asset recipient amount)
        (.elTokenTransfer asset recipient amount)

/-- Calls of one account, among which ether may be wrapped and unwrapped. -/
inductive CallChain (made : Call → Prop) (t : Nat) (caller weth : Address) :
    LendingPool → LendingPool → Prop
  | refl (pool : LendingPool) : CallChain made t caller weth pool pool
  | call {start pool pool' : LendingPool} (before : CallChain made t caller weth start pool)
      (call : Call) (hmade : made call) (success : call.exec t caller pool = .ok pool') :
      CallChain made t caller weth start pool'
  | wrap {start pool : LendingPool} (before : CallChain made t caller weth start pool)
      (token : ERC20) : CallChain made t caller weth start (pool.setToken weth token)

namespace WETHGateway

variable {gateway gateway' : WETHGateway} {t value : Nat} {msgSender : Address}

theorem wethDeposit_pool {account : Address} (h : gateway.wethDeposit account value = .ok gateway') :
    gateway'.this = gateway.this ∧ gateway'.WETH = gateway.WETH ∧
      ∃ token, gateway'.pool = gateway.pool.setToken gateway.WETH token := by
  obtain ⟨_, _, hpure⟩ := bind_eq_ok.mp h
  obtain rfl := pure_eq_ok.mp hpure
  exact ⟨rfl, rfl, _, rfl⟩

theorem wethWithdraw_pool (h : gateway.wethWithdraw value = .ok gateway') :
    gateway'.this = gateway.this ∧ gateway'.WETH = gateway.WETH ∧
      ∃ token, gateway'.pool = gateway.pool.setToken gateway.WETH token := by
  obtain ⟨_, rfl⟩ := wethWithdraw_eq_ok.mp h
  exact ⟨rfl, rfl, _, rfl⟩

/-- Ether that is sent to WETH comes back as WETH. -/
theorem safeTransferETH_pool {recipient : Address}
    (h : gateway.safeTransferETH recipient value = .ok gateway') :
    gateway'.this = gateway.this ∧ gateway'.WETH = gateway.WETH ∧
      (gateway'.pool = gateway.pool ∨
        ∃ token, gateway'.pool = gateway.pool.setToken gateway.WETH token) := by
  obtain ⟨_, hdeposit⟩ | ⟨_, hsend⟩ := ite_eq_ok.mp h
  · obtain ⟨this, weth, wrapped⟩ := wethDeposit_pool (mapError_eq_ok.mp hdeposit)
    exact ⟨this, weth, .inr wrapped⟩
  · obtain ⟨_, _, hmoved⟩ := bind_eq_ok.mp hsend
    obtain ⟨_, _, hpure⟩ := bind_eq_ok.mp hmoved
    obtain rfl := pure_eq_ok.mp hpure
    exact ⟨rfl, rfl, .inl rfl⟩

theorem receiveValue_pool (h : gateway.receiveValue msgSender value = .ok gateway') :
    gateway'.this = gateway.this ∧ gateway'.WETH = gateway.WETH ∧ gateway'.pool = gateway.pool := by
  obtain ⟨_, _, hpure⟩ := bind_eq_ok.mp h
  obtain rfl := pure_eq_ok.mp hpure
  exact ⟨rfl, rfl, rfl⟩

theorem CallChain_safeTransferETH {made : Call → Prop} {start : LendingPool} {recipient : Address}
    (before : CallChain made t gateway.this gateway.WETH start gateway.pool)
    (h : gateway.safeTransferETH recipient value = .ok gateway') :
    CallChain made t gateway.this gateway.WETH start gateway'.pool := by
  obtain ⟨_, _, same | ⟨token, wrapped⟩⟩ := safeTransferETH_pool h
  · rw [same]
    exact before
  · rw [wrapped]
    exact before.wrap token

theorem depositETH_chain {msgValue : Nat} {onBehalfOf : Address}
    (h : gateway.depositETH t msgSender msgValue onBehalfOf = .ok gateway') :
    gateway'.this = gateway.this ∧ gateway'.WETH = gateway.WETH ∧
    CallChain (GatewayCall.Makes gateway msgSender (.depositETH msgValue onBehalfOf)) t gateway.this
      gateway.WETH gateway.pool gateway'.pool := by
  simp only [depositETH, bind_eq_ok, pure_eq_ok] at h
  obtain ⟨received, hreceive, wrapped, hwrap, pool', hdeposit, rfl⟩ := h
  obtain ⟨this, weth, same⟩ := receiveValue_pool hreceive
  obtain ⟨this', weth', token, hpool⟩ := wethDeposit_pool hwrap
  rw [this', this, weth', weth, hpool, weth, same] at hdeposit
  refine ⟨this'.trans this, weth'.trans weth, ?_⟩
  exact .call (.wrap (.refl _) token) (.deposit gateway.WETH msgValue onBehalfOf)
    (.deposit msgValue onBehalfOf) hdeposit

theorem borrowETH_chain {amount interestRateMode : Nat}
    (h : gateway.borrowETH t msgSender amount interestRateMode = .ok gateway') :
    gateway'.this = gateway.this ∧ gateway'.WETH = gateway.WETH ∧
    CallChain (GatewayCall.Makes gateway msgSender (.borrowETH amount interestRateMode)) t
      gateway.this gateway.WETH gateway.pool gateway'.pool := by
  simp only [borrowETH, bind_eq_ok] at h
  obtain ⟨pool', hborrow, unwrapped, hwithdraw, hsend⟩ := h
  obtain ⟨this, weth, token, hpool⟩ := wethWithdraw_pool hwithdraw
  obtain ⟨this', weth', _⟩ := safeTransferETH_pool hsend
  have borrowed : CallChain (GatewayCall.Makes gateway msgSender (.borrowETH amount interestRateMode))
      t unwrapped.this unwrapped.WETH gateway.pool unwrapped.pool := by
    rw [hpool, this, weth]
    exact .wrap (.call (.refl _) (.borrow gateway.WETH amount interestRateMode msgSender)
      (.borrow amount interestRateMode) hborrow) token
  have sent := CallChain_safeTransferETH borrowed hsend
  rw [this, weth] at sent
  exact ⟨this'.trans this, weth'.trans weth, sent⟩

theorem repayETH_chain {msgValue amount rateMode : Nat} {onBehalfOf : Address}
    (h : gateway.repayETH t msgSender msgValue amount rateMode onBehalfOf = .ok gateway') :
    gateway'.this = gateway.this ∧ gateway'.WETH = gateway.WETH ∧
    CallChain (GatewayCall.Makes gateway msgSender (.repayETH msgValue amount rateMode onBehalfOf)) t
      gateway.this gateway.WETH gateway.pool gateway'.pool := by
  simp only [repayETH, bind_eq_ok, Prod.exists] at h
  obtain ⟨received, hreceive, _, _, _, mode, _, _, _, wrapped, hwrap, paid, pool', hrepay, hsend⟩ := h
  obtain ⟨this, weth, same⟩ := receiveValue_pool hreceive
  obtain ⟨this', weth', token, hpool⟩ := wethDeposit_pool hwrap
  rw [this', this, weth', weth, hpool, weth, same] at hrepay
  have called : (Call.repay gateway.WETH msgValue rateMode onBehalfOf).exec t gateway.this
      (gateway.pool.setToken gateway.WETH token) = .ok pool' := map_eq_ok.mpr ⟨_, hrepay, rfl⟩
  have repaid : CallChain (GatewayCall.Makes gateway msgSender
      (.repayETH msgValue amount rateMode onBehalfOf)) t gateway.this gateway.WETH
        gateway.pool pool' :=
    .call (.wrap (.refl _) token) _ (.repay msgValue amount rateMode onBehalfOf) called
  obtain ⟨_, hsend⟩ | ⟨_, hkeep⟩ := ite_eq_ok.mp hsend
  · obtain ⟨this'', weth'', _⟩ := safeTransferETH_pool hsend
    have here : (wrapped.setPool pool').this = gateway.this := this'.trans this
    have there : (wrapped.setPool pool').WETH = gateway.WETH := weth'.trans weth
    rw [← here, ← there] at repaid
    have sent := CallChain_safeTransferETH repaid hsend
    rw [here, there] at sent
    exact ⟨this''.trans here, weth''.trans there, sent⟩
  · obtain rfl := Except.ok.inj hkeep
    exact ⟨this'.trans this, weth'.trans weth, repaid⟩

theorem withdrawETH_chain {amount : Nat} {recipient : Address}
    (h : gateway.withdrawETH t msgSender amount recipient = .ok gateway') :
    gateway'.this = gateway.this ∧ gateway'.WETH = gateway.WETH ∧
    CallChain (GatewayCall.Makes gateway msgSender (.withdrawETH amount recipient)) t
      gateway.this gateway.WETH gateway.pool gateway'.pool := by
  simp only [withdrawETH, bind_eq_ok, Prod.exists] at h
  obtain ⟨balance, _, moved, hmove, paid, pool', hwithdraw, unwrapped, hunwrap, _, _, hsend⟩ := h
  obtain ⟨this, weth, token, hpool⟩ := wethWithdraw_pool hunwrap
  obtain ⟨this', weth', _⟩ := safeTransferETH_pool hsend
  have called : (Call.withdraw gateway.WETH (LendingPool.amountToWithdraw amount balance)
      gateway.this).exec t gateway.this moved = .ok pool' := map_eq_ok.mpr ⟨_, hwithdraw, rfl⟩
  have withdrawn : CallChain (GatewayCall.Makes gateway msgSender (.withdrawETH amount recipient)) t
      unwrapped.this unwrapped.WETH gateway.pool unwrapped.pool := by
    rw [hpool, this, weth]
    have taken : CallChain (GatewayCall.Makes gateway msgSender (.withdrawETH amount recipient)) t
        gateway.this gateway.WETH gateway.pool moved :=
      .call (.refl _) (.elTokenTransferFrom gateway.WETH msgSender gateway.this _)
        (.transferFrom amount _ recipient) hmove
    exact .wrap (.call taken _ (.withdraw amount _ recipient) called) token
  have sent := CallChain_safeTransferETH withdrawn hsend
  rw [this, weth] at sent
  exact ⟨this'.trans this, weth'.trans weth, sent⟩

end WETHGateway

namespace OwnedGateway

variable {g g' : OwnedGateway} {t : Nat} {msgSender : Address}

theorem callPool_eq_ok {call : Call} (h : g.callPool t call = .ok g') :
    ∃ pool', call.exec t g.gateway.this g.gateway.pool = .ok pool' ∧
      g' = { g with gateway := g.gateway.setPool pool' } := by
  obtain ⟨pool', hcall, hpure⟩ := bind_eq_ok.mp h
  exact ⟨pool', mapError_eq_ok.mp hcall, (pure_eq_ok.mp hpure).symm⟩

theorem withGateway_eq_ok {result : Result WETHGateway} (h : g.withGateway result = .ok g') :
    ∃ gateway, result = .ok gateway ∧ g' = { g with gateway } := by
  obtain ⟨gateway, hresult, hpure⟩ := bind_eq_ok.mp h
  exact ⟨gateway, mapError_eq_ok.mp hresult, (pure_eq_ok.mp hpure).symm⟩

theorem exec_chain {call : GatewayCall} (h : g.exec t msgSender call = .ok g') :
    g'.gateway.this = g.gateway.this ∧ g'.gateway.WETH = g.gateway.WETH ∧
      CallChain (call.Makes g.gateway msgSender) t g.gateway.this g.gateway.WETH
        g.gateway.pool g'.gateway.pool := by
  cases call with
  | depositETH msgValue onBehalfOf =>
    obtain ⟨gateway, hcall, rfl⟩ := withGateway_eq_ok h
    exact WETHGateway.depositETH_chain hcall
  | withdrawETH amount recipient =>
    obtain ⟨gateway, hcall, rfl⟩ := withGateway_eq_ok h
    exact WETHGateway.withdrawETH_chain hcall
  | repayETH msgValue amount rateMode onBehalfOf =>
    obtain ⟨gateway, hcall, rfl⟩ := withGateway_eq_ok h
    exact WETHGateway.repayETH_chain hcall
  | borrowETH amount interestRateMode =>
    obtain ⟨gateway, hcall, rfl⟩ := withGateway_eq_ok h
    exact WETHGateway.borrowETH_chain hcall
  | authorizeLendingPool lendingPool =>
    obtain ⟨_, _, hcall⟩ := bind_eq_ok.mp h
    obtain ⟨pool', hexec, rfl⟩ := callPool_eq_ok hcall
    exact ⟨rfl, rfl, .call (.refl _) _ (.approve lendingPool) hexec⟩
  | emergencyTokenTransfer asset recipient amount =>
    obtain ⟨_, _, hcall⟩ := bind_eq_ok.mp h
    obtain ⟨pool', hexec, rfl⟩ := callPool_eq_ok hcall
    exact ⟨rfl, rfl, .call (.refl _) _ (.transfer asset recipient amount) hexec⟩
  | emergencyELTokenTransfer asset recipient amount =>
    obtain ⟨_, _, hcall⟩ := bind_eq_ok.mp h
    obtain ⟨pool', hexec, rfl⟩ := callPool_eq_ok hcall
    exact ⟨rfl, rfl, .call (.refl _) _ (.elTokenTransfer asset recipient amount) hexec⟩
  | emergencyEtherTransfer recipient amount =>
    obtain ⟨_, _, hcall⟩ := bind_eq_ok.mp h
    obtain ⟨gateway, hsend, rfl⟩ := withGateway_eq_ok hcall
    obtain ⟨this, weth, _⟩ := WETHGateway.safeTransferETH_pool hsend
    exact ⟨this, weth, WETHGateway.CallChain_safeTransferETH (.refl _) hsend⟩
  | transferOwnership newOwner =>
    obtain ⟨_, _, h⟩ := bind_eq_ok.mp h
    obtain ⟨_, _, hpure⟩ := bind_eq_ok.mp h
    obtain rfl := pure_eq_ok.mp hpure
    exact ⟨rfl, rfl, .refl _⟩
  | renounceOwnership =>
    obtain ⟨_, _, hpure⟩ := bind_eq_ok.mp h
    obtain rfl := pure_eq_ok.mp hpure
    exact ⟨rfl, rfl, .refl _⟩

end OwnedGateway

/-- What a foreign pool names as its elToken: a token of the pool, or a contract with code of its own. -/
inductive ForeignToken
  | elToken (asset : Address)
  | underlying (asset : Address)
  | foreign (balanceOf : OwnedGateway → GatewayResult Nat)
      (transferFrom : OwnedGateway → GatewayResult OwnedGateway)

/-- A contract that the gateway is told to take for the pool: what its views answer, and what it does
when the gateway calls it. -/
structure ForeignPool where
  lWETH : OwnedGateway → GatewayResult ForeignToken
  getUserCurrentDebtMemory : OwnedGateway → GatewayResult (Nat × Nat)
  execute : OwnedGateway → GatewayResult OwnedGateway

inductive ForeignCall
  | depositETH (msgValue : Nat)
  | withdrawETH (amount : Nat) (recipient : Address)
  | repayETH (msgValue amount rateMode : Nat)
  | borrowETH (amount : Nat)

/-- Code of the foreign pool, or of the token that it names. -/
inductive ForeignPool.Runs (foreign : ForeignPool) (g g' : OwnedGateway) : Prop
  | execute (success : foreign.execute g = .ok g') : Runs foreign g g'
  | transferFrom {named : OwnedGateway} {balanceOf : OwnedGateway → GatewayResult Nat}
      {transferFrom : OwnedGateway → GatewayResult OwnedGateway}
      (token : foreign.lWETH named = .ok (.foreign balanceOf transferFrom))
      (success : transferFrom g = .ok g') : Runs foreign g g'

namespace OwnedGateway

variable (g : OwnedGateway) (blockTimestamp : Nat) (msgSender : Address)

def foreignBalanceOf : ForeignToken → GatewayResult Nat
  | .elToken asset => ((g.gateway.pool.reserves asset).elTokenBalanceOf msgSender).mapError .call
  | .underlying asset => .ok ((g.gateway.pool.tokens asset).balanceOf msgSender)
  | .foreign balanceOf _ => balanceOf g

/-- `lWETH.transferFrom(msg.sender, address(this), amount)`. -/
def foreignTransferFrom (amount : Nat) : ForeignToken → GatewayResult OwnedGateway
  | .elToken asset =>
    g.callPool blockTimestamp (.elTokenTransferFrom asset msgSender g.gateway.this amount)
  | .underlying asset =>
    g.callPool blockTimestamp (.transferFrom asset msgSender g.gateway.this amount)
  | .foreign _ transferFrom => transferFrom g

def withdrawForeign (foreign : ForeignPool) (amount : Nat) (recipient : Address) :
    GatewayResult OwnedGateway := do
  let lWETH ← foreign.lWETH g
  let userBalance ← g.foreignBalanceOf msgSender lWETH
  let amountToWithdraw := LendingPool.amountToWithdraw amount userBalance
  let g ← g.foreignTransferFrom blockTimestamp msgSender amountToWithdraw lWETH
  let g ← foreign.execute g
  let ethBalanceBeforeWithdraw := g.gateway.ether g.gateway.this
  let g ← g.withGateway (g.gateway.wethWithdraw amountToWithdraw)
  let ethBalanceAfterWithdraw := g.gateway.ether g.gateway.this
  require (amountToWithdraw ≤ ethBalanceAfterWithdraw - ethBalanceBeforeWithdraw)
    (.call .withdrawEthBalanceInconsistent)
  g.withGateway (g.gateway.safeTransferETH recipient amountToWithdraw)

def repayForeign (foreign : ForeignPool) (msgValue amount rateMode : Nat) :
    GatewayResult OwnedGateway := do
  let g ← g.withGateway (g.gateway.receiveValue msgSender msgValue)
  let (stableDebt, variableDebt) ← foreign.getUserCurrentDebtMemory g
  let interestRateMode ← (InterestRateMode.fromNat rateMode).mapError .call
  let paybackAmount := LendingPool.paybackAmount amount stableDebt variableDebt interestRateMode
  require (paybackAmount ≤ msgValue) (.call .msgValueLessThanRepayment)
  let g ← g.withGateway (g.gateway.wethDeposit g.gateway.this paybackAmount)
  let g ← foreign.execute g
  if paybackAmount < msgValue then
    g.withGateway (g.gateway.safeTransferETH msgSender (msgValue - paybackAmount))
  else .ok g

/-- The functions as they go for a foreign pool. Whoever is sent ether at the end of one acts after all
else of it, so that what he does are the next steps of a run. -/
def execForeign (foreign : ForeignPool) : ForeignCall → GatewayResult OwnedGateway
  | .depositETH msgValue => do
    let g ← g.withGateway (g.gateway.receiveValue msgSender msgValue)
    let g ← g.withGateway (g.gateway.wethDeposit g.gateway.this msgValue)
    foreign.execute g
  | .withdrawETH amount recipient =>
    g.withdrawForeign blockTimestamp msgSender foreign amount recipient
  | .repayETH msgValue amount rateMode => g.repayForeign msgSender foreign msgValue amount rateMode
  | .borrowETH amount => do
    let g ← foreign.execute g
    let g ← g.withGateway (g.gateway.wethWithdraw amount)
    g.withGateway (g.gateway.safeTransferETH msgSender amount)

end OwnedGateway

/-- Successful calls of the pool, of the gateway, and flash loans in one block; the receiver of a flash
loan and a foreign pool may have calls of all kinds made before they return. -/
inductive GatewaySteps (rules : Rules) (acts : Address → Prop) (t : Nat) :
    OwnedGateway → OwnedGateway → Prop
  | refl (g : OwnedGateway) : GatewaySteps rules acts t g g
  | pool {start g : OwnedGateway} {pool' : LendingPool} (before : GatewaySteps rules acts t start g)
      (msgSender : Address) (call : Call) (allowed : rules.call g.gateway.pool msgSender call)
      (success : call.exec t msgSender g.gateway.pool = .ok pool') :
      GatewaySteps rules acts t start { g with gateway := g.gateway.setPool pool' }
  | gateway {start g g' : OwnedGateway} (before : GatewaySteps rules acts t start g)
      (msgSender : Address) (call : GatewayCall) (allowed : acts msgSender)
      (success : g.exec t msgSender call = .ok g') : GatewaySteps rules acts t start g'
  | foreign {start g g' : OwnedGateway} (before : GatewaySteps rules acts t start g)
      (msgSender : Address) (foreign : ForeignPool) (call : ForeignCall) (allowed : acts msgSender)
      (nested : ∀ g₁ g₂, foreign.Runs g₁ g₂ → GatewaySteps rules acts t g₁ g₂)
      (success : g.execForeign t msgSender foreign call = .ok g') :
      GatewaySteps rules acts t start g'
  | flashLoan {start g g' : OwnedGateway} {pool' : LendingPool}
      (before : GatewaySteps rules acts t start g) (msgSender receiver : Address)
      (assets : List Address) (amounts modes : List Nat) (onBehalfOf : Address)
      (executeOperation : LendingPool → Result (Bool × LendingPool))
      (allowed : rules.flashLoan g.gateway.pool msgSender receiver)
      (callback : ∀ sent answer returned, executeOperation sent = .ok (answer, returned) →
        GatewaySteps rules acts t { g with gateway := g.gateway.setPool sent }
          { g' with gateway := g'.gateway.setPool returned })
      (success : g.gateway.pool.flashLoan t .lendingPool msgSender receiver assets amounts modes
        onBehalfOf executeOperation = .ok pool') :
      GatewaySteps rules acts t start { g' with gateway := g'.gateway.setPool pool' }

/-- Blocks of such steps, with the timestamp of the last block. -/
inductive GatewayLater (rules : Rules) (acts : Address → Prop) (t : Nat) (g : OwnedGateway) :
    Nat → OwnedGateway → Prop
  | now : GatewayLater rules acts t g t g
  | block {t' t'' : Nat} {g' g'' : OwnedGateway} (before : GatewayLater rules acts t g t' g')
      (later : t' ≤ t'') (timestamp : IsBlockTimestamp t'')
      (steps : GatewaySteps rules acts t'' g' g'') : GatewayLater rules acts t g t'' g''

section Invariants

variable {rules : Rules} {acts : Address → Prop} {P : Nat → LendingPool → Prop}

/-- What the pool keeps under its rules and under the calls that the gateway makes for others. -/
structure GatewayInvariant (rules : Rules) (acts : Address → Prop) (this weth : Address)
    (P : Nat → LendingPool → Prop) : Prop where
  ruled : RuledInvariant rules P
  wrap : ∀ t pool token, P t pool → P t (pool.setToken weth token)
  made : ∀ t pool pool' gateway msgSender call made, IsBlockTimestamp t → acts msgSender →
    GatewayCall.Makes gateway msgSender call made → gateway.this = this → gateway.WETH = weth →
    made.exec t this pool = .ok pool' → P t pool → P t pool'
  pulled : ∀ t pool pool' msgSender asset amount made, acts msgSender →
    made = .elTokenTransferFrom asset msgSender this amount ∨
      made = .transferFrom asset msgSender this amount →
    Call.exec t this made pool = .ok pool' → P t pool → P t pool'

/-- The gateway is the one that runs began with, and its pool has the property. -/
structure OwnedGateway.Holds (g : OwnedGateway) (this weth : Address) (P : Nat → LendingPool → Prop)
    (t : Nat) : Prop where
  this : g.gateway.this = this
  weth : g.gateway.WETH = weth
  pool : P t g.gateway.pool

variable {this weth : Address} {t t' : Nat} {g g' : OwnedGateway}

theorem GatewayInvariant.chain (inv : GatewayInvariant rules acts this weth P)
    (ht : IsBlockTimestamp t) {msgSender : Address} (allowed : acts msgSender) {call : GatewayCall}
    {gateway : WETHGateway} (hthis : gateway.this = this) (hweth : gateway.WETH = weth)
    {pool pool' : LendingPool} (initial : P t pool)
    (chain : CallChain (call.Makes gateway msgSender) t this weth pool pool') : P t pool' := by
  induction chain with
  | refl => exact initial
  | call _ made hmade success ih =>
    exact inv.made _ _ _ _ _ _ _ ht allowed hmade hthis hweth success ih
  | wrap _ token ih => exact inv.wrap _ _ token ih

namespace GatewayInvariant

variable {gateway : WETHGateway} {msgSender : Address} {amount : Nat}

theorem wrapped (inv : GatewayInvariant rules acts this weth P) (holds : g.Holds this weth P t)
    (hthis : gateway.this = g.gateway.this) (hweth : gateway.WETH = g.gateway.WETH)
    (hpool : gateway.pool = g.gateway.pool ∨
      ∃ token, gateway.pool = g.gateway.pool.setToken g.gateway.WETH token) :
    OwnedGateway.Holds { g with gateway } this weth P t := by
  refine ⟨hthis.trans holds.this, hweth.trans holds.weth, ?_⟩
  obtain same | ⟨token, set⟩ := hpool
  · exact same ▸ holds.pool
  · rw [holds.weth] at set
    exact set ▸ inv.wrap _ _ token holds.pool

theorem receiveValue (inv : GatewayInvariant rules acts this weth P) (holds : g.Holds this weth P t)
    (h : g.withGateway (g.gateway.receiveValue msgSender amount) = .ok g') :
    g'.Holds this weth P t := by
  obtain ⟨gateway, hcall, rfl⟩ := OwnedGateway.withGateway_eq_ok h
  obtain ⟨hthis, hweth, same⟩ := WETHGateway.receiveValue_pool hcall
  exact inv.wrapped holds hthis hweth (.inl same)

theorem wethDeposit (inv : GatewayInvariant rules acts this weth P) (holds : g.Holds this weth P t)
    (h : g.withGateway (g.gateway.wethDeposit g.gateway.this amount) = .ok g') :
    g'.Holds this weth P t := by
  obtain ⟨gateway, hcall, rfl⟩ := OwnedGateway.withGateway_eq_ok h
  obtain ⟨hthis, hweth, set⟩ := WETHGateway.wethDeposit_pool hcall
  exact inv.wrapped holds hthis hweth (.inr set)

theorem wethWithdraw (inv : GatewayInvariant rules acts this weth P) (holds : g.Holds this weth P t)
    (h : g.withGateway (g.gateway.wethWithdraw amount) = .ok g') : g'.Holds this weth P t := by
  obtain ⟨gateway, hcall, rfl⟩ := OwnedGateway.withGateway_eq_ok h
  obtain ⟨hthis, hweth, set⟩ := WETHGateway.wethWithdraw_pool hcall
  exact inv.wrapped holds hthis hweth (.inr set)

theorem safeTransferETH (inv : GatewayInvariant rules acts this weth P) {recipient : Address}
    (holds : g.Holds this weth P t)
    (h : g.withGateway (g.gateway.safeTransferETH recipient amount) = .ok g') :
    g'.Holds this weth P t := by
  obtain ⟨gateway, hcall, rfl⟩ := OwnedGateway.withGateway_eq_ok h
  obtain ⟨hthis, hweth, hpool⟩ := WETHGateway.safeTransferETH_pool hcall
  exact inv.wrapped holds hthis hweth hpool

variable {foreign : ForeignPool}

theorem foreignTransferFrom (inv : GatewayInvariant rules acts this weth P) (allowed : acts msgSender)
    (nested : ∀ g₁ g₂, foreign.Runs g₁ g₂ → g₁.Holds this weth P t → g₂.Holds this weth P t)
    {named : OwnedGateway} {token : ForeignToken} (htoken : foreign.lWETH named = .ok token)
    (holds : g.Holds this weth P t)
    (h : g.foreignTransferFrom t msgSender amount token = .ok g') : g'.Holds this weth P t := by
  cases token with
  | elToken asset =>
    obtain ⟨pool', hcall, rfl⟩ := OwnedGateway.callPool_eq_ok h
    rw [holds.this] at hcall
    exact ⟨holds.this, holds.weth,
      inv.pulled _ _ _ _ asset amount _ allowed (.inl rfl) hcall holds.pool⟩
  | underlying asset =>
    obtain ⟨pool', hcall, rfl⟩ := OwnedGateway.callPool_eq_ok h
    rw [holds.this] at hcall
    exact ⟨holds.this, holds.weth,
      inv.pulled _ _ _ _ asset amount _ allowed (.inr rfl) hcall holds.pool⟩
  | foreign balanceOf transferFrom => exact nested _ _ (.transferFrom htoken h) holds

theorem execForeign (inv : GatewayInvariant rules acts this weth P) (allowed : acts msgSender)
    (nested : ∀ g₁ g₂, foreign.Runs g₁ g₂ → g₁.Holds this weth P t → g₂.Holds this weth P t)
    {call : ForeignCall} (holds : g.Holds this weth P t)
    (h : g.execForeign t msgSender foreign call = .ok g') : g'.Holds this weth P t := by
  cases call with
  | depositETH msgValue =>
    simp only [OwnedGateway.execForeign, bind_eq_ok] at h
    obtain ⟨received, hreceive, wrapped, hwrap, hexecute⟩ := h
    exact nested _ _ (.execute hexecute) (inv.wethDeposit (inv.receiveValue holds hreceive) hwrap)
  | withdrawETH amount recipient =>
    simp only [OwnedGateway.execForeign, OwnedGateway.withdrawForeign, bind_eq_ok] at h
    obtain ⟨token, htoken, balance, _, pulled, hpull, executed, hexecute, unwrapped, hunwrap, _, _,
      hsend⟩ := h
    have taken := inv.foreignTransferFrom allowed nested htoken holds hpull
    have run := nested _ _ (.execute hexecute) taken
    exact inv.safeTransferETH (inv.wethWithdraw run hunwrap) hsend
  | repayETH msgValue amount rateMode =>
    simp only [OwnedGateway.execForeign, OwnedGateway.repayForeign, bind_eq_ok, Prod.exists] at h
    obtain ⟨received, hreceive, _, _, _, mode, _, _, _, wrapped, hwrap, executed, hexecute, hsend⟩ := h
    have run := nested _ _ (.execute hexecute)
      (inv.wethDeposit (inv.receiveValue holds hreceive) hwrap)
    obtain ⟨_, hsend⟩ | ⟨_, hkeep⟩ := ite_eq_ok.mp hsend
    · exact inv.safeTransferETH run hsend
    · obtain rfl := Except.ok.inj hkeep
      exact run
  | borrowETH amount =>
    simp only [OwnedGateway.execForeign, bind_eq_ok] at h
    obtain ⟨executed, hexecute, unwrapped, hunwrap, hsend⟩ := h
    exact inv.safeTransferETH (inv.wethWithdraw (nested _ _ (.execute hexecute) holds) hunwrap) hsend

end GatewayInvariant

theorem GatewayInvariant.steps (inv : GatewayInvariant rules acts this weth P)
    (ht : IsBlockTimestamp t) (run : GatewaySteps rules acts t g g') (initial : g.Holds this weth P t) :
    g'.Holds this weth P t := by
  induction run with
  | refl => exact initial
  | pool before msgSender call allowed success ih =>
    have holds := ih initial
    exact ⟨holds.this, holds.weth,
      inv.ruled.call _ _ _ msgSender call ht allowed success holds.pool⟩
  | gateway before msgSender call allowed success ih =>
    have holds := ih initial
    obtain ⟨this', weth', chain⟩ := OwnedGateway.exec_chain success
    rw [holds.this, holds.weth] at chain
    exact ⟨this'.trans holds.this, weth'.trans holds.weth,
      inv.chain ht allowed holds.this holds.weth holds.pool chain⟩
  | foreign before msgSender foreign call allowed nested success ih called =>
    exact inv.execForeign allowed called (ih initial) success
  | @flashLoan start middle last pool' before msgSender receiver assets amounts modes onBehalfOf
      executeOperation allowed callback success ih called =>
    have holds := ih initial
    have unpaused := flashLoan_unpaused success
    obtain ⟨_, entries, sent, answer, returned, hsend, hanswer, hsettle⟩ := flashLoan_eq_ok success
    have sending := inv.ruled.send _ _ _ msgSender receiver _ _ allowed unpaused hsend holds.pool
    have back := called sent answer returned hanswer ⟨holds.this, holds.weth, sending⟩
    exact ⟨back.this, back.weth, inv.ruled.settle _ _ _ _ msgSender receiver onBehalfOf entries modes
      ht allowed unpaused holds.pool hsettle back.pool⟩

theorem GatewayInvariant.later (inv : GatewayInvariant rules acts this weth P)
    (run : GatewayLater rules acts t g t' g') (initial : g.Holds this weth P t) :
    g'.Holds this weth P t' := by
  induction run with
  | now => exact initial
  | block _ later timestamp steps ih =>
    exact inv.steps timestamp steps ⟨ih.this, ih.weth, inv.ruled.later _ _ _ later ih.pool⟩

end Invariants

end ElectroLend
