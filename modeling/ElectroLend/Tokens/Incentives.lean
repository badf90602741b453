import ElectroLend.Tokens.StableRuns
import ElectroLend.Tokens.SupplyRuns

namespace ElectroLend

open Outcome

/-- The three arguments of `handleAction`, in the order and under the names of the tokens. A token
without a controller tells nobody; what the controller does with a report is not part of the tokens. -/
structure HandleAction where
  user : Address
  totalSupply : Nat
  userBalance : Nat
  deriving DecidableEq, Repr

namespace IncentivizedERC20

/-- The functions of the tokens once more, with their calls of `handleAction`. Without the reports
they go as before: `reportingExec_eq` and `reportingExec_fst`. -/
def reportingMint (token : IncentivizedERC20) (account : Address) (amount : Nat) :
    Result (IncentivizedERC20 × List HandleAction) := do
  require (account ≠ 0) .erc20MintToZeroAddress
  let oldTotalSupply := token.totalSupply
  let totalSupply ← SafeMath.add oldTotalSupply amount
  let oldAccountBalance := token.balances account
  let accountBalance ← SafeMath.add oldAccountBalance amount
  pure (⟨Function.update token.balances account accountBalance, totalSupply⟩,
    [⟨account, oldTotalSupply, oldAccountBalance⟩])

def reportingBurn (token : IncentivizedERC20) (account : Address) (amount : Nat) :
    Result (IncentivizedERC20 × List HandleAction) := do
  require (account ≠ 0) .erc20BurnFromZeroAddress
  let oldTotalSupply := token.totalSupply
  let totalSupply ← SafeMath.sub oldTotalSupply amount .safeMathSubtractionOverflow
  let oldAccountBalance := token.balances account
  let accountBalance ← SafeMath.sub oldAccountBalance amount .erc20BurnAmountExceedsBalance
  pure (⟨Function.update token.balances account accountBalance, totalSupply⟩,
    [⟨account, oldTotalSupply, oldAccountBalance⟩])

def reportingTransfer (token : IncentivizedERC20) (sender recipient : Address) (amount : Nat) :
    Result (IncentivizedERC20 × List HandleAction) := do
  require (sender ≠ 0) .erc20TransferFromZeroAddress
  require (recipient ≠ 0) .erc20TransferToZeroAddress
  let oldSenderBalance := token.balances sender
  let senderBalance ← SafeMath.sub oldSenderBalance amount .erc20TransferAmountExceedsBalance
  let balances := Function.update token.balances sender senderBalance
  -- read after the sender's balance was written
  let oldRecipientBalance := balances recipient
  let recipientBalance ← SafeMath.add (balances recipient) amount
  let currentTotalSupply := token.totalSupply
  pure ({ token with balances := Function.update balances recipient recipientBalance },
    ⟨sender, currentTotalSupply, oldSenderBalance⟩ ::
      if sender ≠ recipient then [⟨recipient, currentTotalSupply, oldRecipientBalance⟩] else [])

/-- The account as it was. -/
def supplyActions (token : IncentivizedERC20) (account : Address) : List HandleAction :=
  [⟨account, token.totalSupply, token.balances account⟩]

/-- The sender as it was, and the recipient when it is somebody else. -/
def transferActions (token : IncentivizedERC20) (sender recipient : Address) : List HandleAction :=
  ⟨sender, token.totalSupply, token.balances sender⟩ ::
    if sender ≠ recipient then [⟨recipient, token.totalSupply, token.balances recipient⟩] else []

variable (token : IncentivizedERC20)

theorem reportingMint_eq (account : Address) (amount : Nat) :
    token.reportingMint account amount =
      (fun token' => (token', token.supplyActions account)) <$> token.mint account amount := by
  simp only [reportingMint, mint, supplyActions, map_bind, map_pure]

theorem reportingBurn_eq (account : Address) (amount : Nat) :
    token.reportingBurn account amount =
      (fun token' => (token', token.supplyActions account)) <$> token.burn account amount := by
  simp only [reportingBurn, burn, supplyActions, map_bind, map_pure]

theorem reportingTransfer_eq (sender recipient : Address) (amount : Nat) :
    token.reportingTransfer sender recipient amount =
      (fun balances => ({ token with balances }, token.transferActions sender recipient)) <$>
        moveBalance token.balances sender recipient amount := by
  by_cases hne : sender = recipient
  · simp [reportingTransfer, moveBalance, transferActions, hne]
  · simp [reportingTransfer, moveBalance, transferActions, hne, Ne.symm hne]

end IncentivizedERC20

namespace ELToken

def reportingMint (token : ELToken) (user : Address) (amount index : Nat) :
    Result ((Bool × ELToken) × List HandleAction) := do
  let previousBalance := token.toIncentivizedERC20.balanceOf user
  let amountScaled ← rayDiv amount index
  require (amountScaled ≠ 0) .ctInvalidMintAmount
  let (base, reports) ← token.toIncentivizedERC20.reportingMint user amountScaled
  pure ((previousBalance == 0, { token with toIncentivizedERC20 := base }), reports)

def reportingBurn (token : ELToken) (underlying : ERC20) (this user receiverOfUnderlying : Address)
    (amount index : Nat) : Result ((ELToken × ERC20) × List HandleAction) := do
  let amountScaled ← rayDiv amount index
  require (amountScaled ≠ 0) .ctInvalidBurnAmount
  let (base, reports) ← token.toIncentivizedERC20.reportingBurn user amountScaled
  let underlying ← SafeERC20.safeTransfer underlying this receiverOfUnderlying amount
  pure (({ token with toIncentivizedERC20 := base }, underlying), reports)

def reportingMintToTreasury (token : ELToken) (amount index : Nat) :
    Result (ELToken × List HandleAction) :=
  if amount = 0 then .ok (token, [])
  else do
    let amountScaled ← rayDiv amount index
    let (base, reports) ← token.toIncentivizedERC20.reportingMint token.treasury amountScaled
    pure ({ token with toIncentivizedERC20 := base }, reports)

def reportingTransfer (token : ELToken) (pool : PoolAnswers) (sender recipient : Address)
    (amount : Nat) (validate : Bool) : Result (ELToken × List HandleAction) := do
  let index ← pool.getReserveNormalizedIncome
  let fromBalanceBefore ← rayMul (token.scaledBalanceOf sender) index
  let toBalanceBefore ← rayMul (token.scaledBalanceOf recipient) index
  let amountScaled ← rayDiv amount index
  let (base, reports) ← token.toIncentivizedERC20.reportingTransfer sender recipient amountScaled
  let token := { token with toIncentivizedERC20 := base }
  if validate then do
    pool.finalizeTransfer sender recipient amount fromBalanceBefore toBalanceBefore
    pure (token, reports)
  else .ok (token, reports)

def reportingExec (token : ELToken) : ELTokenCall → Result (ELToken × List HandleAction)
  | .mint user amount index => do
    let ((_, token), reports) ← token.reportingMint user amount index
    pure (token, reports)
  | .burn underlying this user receiverOfUnderlying amount index => do
    let ((token, _), reports) ←
      token.reportingBurn underlying this user receiverOfUnderlying amount index
    pure (token, reports)
  | .mintToTreasury amount index => token.reportingMintToTreasury amount index
  | .transfer pool msgSender recipient amount =>
    token.reportingTransfer pool msgSender recipient amount true
  | .transferFrom pool msgSender sender recipient amount => do
    let (token, reports) ← token.reportingTransfer pool sender recipient amount true
    let remaining ← SafeMath.sub (token.allowances sender msgSender) amount
      .erc20TransferAmountExceedsAllowance
    let token ← token.approve sender msgSender remaining
    pure (token, reports)
  | .transferOnLiquidation pool sender recipient value =>
    token.reportingTransfer pool sender recipient value false
  | .approve owner spender amount => do
    let token ← token.approve owner spender amount
    pure (token, [])

def handleActions (token : ELToken) : ELTokenCall → List HandleAction
  | .mint user _ _ => token.supplyActions user
  | .burn _ _ user _ _ _ => token.supplyActions user
  | .mintToTreasury amount _ => if amount = 0 then [] else token.supplyActions token.treasury
  | .transfer _ msgSender recipient _ => token.transferActions msgSender recipient
  | .transferFrom _ _ sender recipient _ => token.transferActions sender recipient
  | .transferOnLiquidation _ sender recipient _ => token.transferActions sender recipient
  | .approve _ _ _ => []

variable (token : ELToken)

theorem reportingTransfer_eq (pool : PoolAnswers) (sender recipient : Address) (amount : Nat)
    (validate : Bool) : token.reportingTransfer pool sender recipient amount validate =
      (fun token' => (token', token.transferActions sender recipient)) <$>
        token.transferValidated pool sender recipient amount validate := by
  cases validate with
  | true =>
    simp [reportingTransfer, transferValidated, transferScaled,
      IncentivizedERC20.reportingTransfer_eq]
  | false =>
    simp [reportingTransfer, transferValidated, transferScaled,
      IncentivizedERC20.reportingTransfer_eq]

/-- A call with its reports goes exactly as the call, and reports of the token before it. -/
theorem reportingExec_eq (call : ELTokenCall) : token.reportingExec call =
    (fun token' => (token', token.handleActions call)) <$> token.exec call := by
  cases call with
  | mint user amount index =>
    simp [reportingExec, exec, reportingMint, mint, handleActions,
      IncentivizedERC20.reportingMint_eq]
  | burn underlying this user receiverOfUnderlying amount index =>
    simp [reportingExec, exec, reportingBurn, burn, handleActions,
      IncentivizedERC20.reportingBurn_eq]
  | mintToTreasury amount index =>
    by_cases hz : amount = 0
    · simp [reportingExec, exec, reportingMintToTreasury, mintToTreasury, handleActions, hz]
    · simp [reportingExec, exec, reportingMintToTreasury, mintToTreasury, handleActions, hz,
        IncentivizedERC20.reportingMint_eq]
  | transfer pool msgSender recipient amount => exact token.reportingTransfer_eq ..
  | transferFrom pool msgSender sender recipient amount =>
    simp [reportingExec, exec, reportingTransfer_eq, handleActions]
  | transferOnLiquidation pool sender recipient value => exact token.reportingTransfer_eq ..
  | approve owner spender amount => simp [reportingExec, exec, handleActions]

theorem reportingExec_eq_ok {token token' : ELToken} {call : ELTokenCall}
    {reports : List HandleAction} (h : token.reportingExec call = .ok (token', reports)) :
    token.exec call = .ok token' ∧ reports = token.handleActions call := by
  rw [reportingExec_eq] at h
  obtain ⟨_, hexec, heq⟩ := map_eq_ok.mp h
  cases heq
  exact ⟨hexec, rfl⟩

end ELToken

namespace VariableDebtToken

def reportingMint (token : VariableDebtToken) (user onBehalfOf : Address) (amount index : Nat) :
    Result ((Bool × VariableDebtToken) × List HandleAction) := do
  let borrowAllowances ← spendBorrowAllowance token.borrowAllowances user onBehalfOf amount
  let previousBalance := token.toIncentivizedERC20.balanceOf onBehalfOf
  let amountScaled ← rayDiv amount index
  require (amountScaled ≠ 0) .ctInvalidMintAmount
  let (base, reports) ← token.toIncentivizedERC20.reportingMint onBehalfOf amountScaled
  pure ((previousBalance == 0, ⟨base, borrowAllowances⟩), reports)

def reportingBurn (token : VariableDebtToken) (user : Address) (amount index : Nat) :
    Result (VariableDebtToken × List HandleAction) := do
  let amountScaled ← rayDiv amount index
  require (amountScaled ≠ 0) .ctInvalidBurnAmount
  let (base, reports) ← token.toIncentivizedERC20.reportingBurn user amountScaled
  pure ({ token with toIncentivizedERC20 := base }, reports)

def reportingExec (token : VariableDebtToken) :
    VariableDebtCall → Result (VariableDebtToken × List HandleAction)
  | .mint user onBehalfOf amount index => do
    let ((_, token), reports) ← token.reportingMint user onBehalfOf amount index
    pure (token, reports)
  | .burn user amount index => token.reportingBurn user amount index
  | .approveDelegation delegator delegatee amount => do
    let token ← token.exec (.approveDelegation delegator delegatee amount)
    pure (token, [])

def handleActions (token : VariableDebtToken) : VariableDebtCall → List HandleAction
  | .mint _ onBehalfOf _ _ => token.supplyActions onBehalfOf
  | .burn user _ _ => token.supplyActions user
  | .approveDelegation _ _ _ => []

theorem reportingExec_eq (token : VariableDebtToken) (call : VariableDebtCall) :
    token.reportingExec call =
      (fun token' => (token', token.handleActions call)) <$> token.exec call := by
  cases call with
  | mint user onBehalfOf amount index =>
    simp [reportingExec, exec, reportingMint, mint, handleActions,
      IncentivizedERC20.reportingMint_eq]
  | burn user amount index =>
    simp [reportingExec, exec, reportingBurn, burn, handleActions,
      IncentivizedERC20.reportingBurn_eq]
  | approveDelegation delegator delegatee amount => rfl

theorem reportingExec_eq_ok {token token' : VariableDebtToken} {call : VariableDebtCall}
    {reports : List HandleAction} (h : token.reportingExec call = .ok (token', reports)) :
    token.exec call = .ok token' ∧ reports = token.handleActions call := by
  rw [reportingExec_eq] at h
  obtain ⟨_, hexec, heq⟩ := map_eq_ok.mp h
  cases heq
  exact ⟨hexec, rfl⟩

end VariableDebtToken

/-- The account whose debt a call moves. -/
def StableCall.account : StableCall → Address
  | mint _ onBehalfOf _ _ => onBehalfOf
  | burn user _ => user

namespace StableDebtToken

/-- `_mint` and `_burn` of this token are given the supply to report: the accrued one. -/
def reportingMint (token : StableDebtToken) (blockTimestamp : Nat) (user onBehalfOf : Address)
    (amount rate : Nat) : Result ((Bool × StableDebtToken) × List HandleAction) := do
  let borrowAllowances ← spendBorrowAllowance token.borrowAllowances user onBehalfOf amount
  let (_, currentBalance, balanceIncrease) ←
    token.calculateBalanceIncrease blockTimestamp onBehalfOf
  let previousSupply ← token.totalSupplyAt blockTimestamp
  let nextSupply ← SafeMath.add previousSupply amount
  let newBalance ← SafeMath.add currentBalance amount
  let newStableRate ←
    weightedRate (token.usersStableRate onBehalfOf) currentBalance rate amount newBalance
  require (newStableRate ≤ uint128Max) .sdtStableDebtOverflow
  let newAvgStableRate ← weightedRate token.avgStableRate previousSupply rate amount nextSupply
  let minted ← SafeMath.add amount balanceIncrease
  let oldAccountBalance := token.balances onBehalfOf
  let accountBalance ← SafeMath.add oldAccountBalance minted
  pure ((currentBalance == 0, {
    balances := Function.update token.balances onBehalfOf accountBalance
    totalSupply := nextSupply
    borrowAllowances
    avgStableRate := newAvgStableRate
    timestamps := Function.update token.timestamps onBehalfOf (uint40 blockTimestamp)
    usersStableRate := Function.update token.usersStableRate onBehalfOf newStableRate
    totalSupplyTimestamp := uint40 blockTimestamp }),
    [⟨onBehalfOf, previousSupply, oldAccountBalance⟩])

def reportingBurn (token : StableDebtToken) (blockTimestamp : Nat) (user : Address)
    (amount : Nat) : Result (StableDebtToken × List HandleAction) := do
  let (_, currentBalance, balanceIncrease) ← token.calculateBalanceIncrease blockTimestamp user
  let previousSupply ← token.totalSupplyAt blockTimestamp
  let userStableRate := token.usersStableRate user
  let (avgStableRate, totalSupply) ← token.supplyAfterBurn previousSupply userStableRate amount
  let closed : Bool := amount = currentBalance
  let oldAccountBalance := token.balances user
  let accountBalance ← principalAfterBurn oldAccountBalance balanceIncrease amount
  pure ({ token with
    balances := Function.update token.balances user accountBalance
    totalSupply
    avgStableRate
    timestamps :=
      Function.update token.timestamps user (if closed then 0 else uint40 blockTimestamp)
    usersStableRate :=
      if closed then Function.update token.usersStableRate user 0 else token.usersStableRate
    totalSupplyTimestamp := uint40 blockTimestamp },
    [⟨user, previousSupply, oldAccountBalance⟩])

def reportingExec (token : StableDebtToken) (blockTimestamp : Nat) :
    StableCall → Result (StableDebtToken × List HandleAction)
  | .mint user onBehalfOf amount rate => do
    let ((_, token), reports) ← token.reportingMint blockTimestamp user onBehalfOf amount rate
    pure (token, reports)
  | .burn user amount => token.reportingBurn blockTimestamp user amount

variable {token token' : StableDebtToken} {t : Nat} {call : StableCall}
  {reports : List HandleAction}

theorem reportingExec_fst (t : Nat) (call : StableCall) :
    Prod.fst <$> token.reportingExec t call = token.exec t call := by
  cases call with
  | mint user onBehalfOf amount rate =>
    simp [reportingExec, exec, reportingMint, mint]
  | burn user amount =>
    simp [reportingExec, exec, reportingBurn, burn]

theorem reportingExec_exec (h : token.reportingExec t call = .ok (token', reports)) :
    token.exec t call = .ok token' := by
  rw [← reportingExec_fst]
  exact map_eq_ok.mpr ⟨_, h, rfl⟩

theorem reportingExec_reports (h : token.reportingExec t call = .ok (token', reports)) :
    ∃ supply, token.totalSupplyAt t = .ok supply ∧
      reports = [⟨call.account, supply, token.balances call.account⟩] := by
  cases call with
  | mint user onBehalfOf amount rate =>
    simp only [reportingExec, reportingMint, bind_eq_ok, pure_eq_ok, Prod.mk.injEq] at h
    obtain ⟨_, ⟨_, _, _, _, supply, hsupply, _, _, _, _, _, _, _, _, _, _, _, _, _, _, rfl⟩,
      _, rfl⟩ := h
    exact ⟨supply, hsupply, rfl⟩
  | burn user amount =>
    simp only [reportingExec, reportingBurn, bind_eq_ok, pure_eq_ok, Prod.mk.injEq] at h
    obtain ⟨_, _, supply, hsupply, _, _, _, _, _, rfl⟩ := h
    exact ⟨supply, hsupply, rfl⟩

end StableDebtToken

def ELToken.ReportedStep (_ : Nat) (token token' : ELToken) (reports : List HandleAction) : Prop :=
  ∃ call, token.reportingExec call = .ok (token', reports)

def VariableDebtToken.ReportedStep (_ : Nat) (token token' : VariableDebtToken)
    (reports : List HandleAction) : Prop :=
  ∃ call, token.reportingExec call = .ok (token', reports)

/-- Borrowers set their allowances as they like between the calls of the pool. -/
def StableDebtToken.ReportedStep (t : Nat) (token token' : StableDebtToken)
    (reports : List HandleAction) : Prop :=
  ∃ allowances call, (token.withAllowances allowances).reportingExec t call = .ok (token', reports)

def HandleAction.balanceOf (user : Address) (action : HandleAction) : Option Nat :=
  if action.user = user then some action.userBalance else none

def HandleAction.supply (action : HandleAction) : Option Nat := some action.totalSupply

end ElectroLend
