import ElectroLend.Tokens.ERC20

namespace ElectroLend

open Outcome

/-- `_decreaseBorrowAllowance` of DebtTokenBase, on the map that both debt tokens keep. -/
def decreaseBorrowAllowance (borrowAllowances : Address → Address → Nat)
    (delegator delegatee : Address) (amount : Nat) : Result (Address → Address → Nat) := do
  let newAllowance ←
    SafeMath.sub (borrowAllowances delegator delegatee) amount .borrowAllowanceNotEnough
  pure (Function.update borrowAllowances delegator
    (Function.update (borrowAllowances delegator) delegatee newAllowance))

/-- The allowances left after `user` opens `amount` of debt for `onBehalfOf`. -/
def spendBorrowAllowance (borrowAllowances : Address → Address → Nat) (user onBehalfOf : Address)
    (amount : Nat) : Result (Address → Address → Nat) :=
  if user ≠ onBehalfOf then decreaseBorrowAllowance borrowAllowances onBehalfOf user amount
  else .ok borrowAllowances

structure VariableDebtToken extends IncentivizedERC20 where
  borrowAllowances : Address → Address → Nat

def VariableDebtToken.empty : VariableDebtToken := ⟨.empty, fun _ _ => 0⟩

def VariableDebtToken.scaledBalanceOf (token : VariableDebtToken) (user : Address) : Nat :=
  token.balances user

def VariableDebtToken.scaledTotalSupply (token : VariableDebtToken) : Nat := token.totalSupply

/-- `normalizedDebt` is the answer of the pool's `getReserveNormalizedVariableDebt`, asked for
only when there is a scaled balance. -/
def VariableDebtToken.balanceOf (token : VariableDebtToken) (normalizedDebt : Result Nat)
    (user : Address) : Result Nat :=
  let scaledBalance := token.toIncentivizedERC20.balanceOf user
  if scaledBalance = 0 then .ok 0
  else do
    let index ← normalizedDebt
    rayMul scaledBalance index

/-- Unlike the balances, the total asks the pool for the index even when it is zero. -/
def VariableDebtToken.totalDebt (token : VariableDebtToken) (normalizedDebt : Result Nat) :
    Result Nat := do
  let index ← normalizedDebt
  rayMul token.totalSupply index

def VariableDebtToken.mint (token : VariableDebtToken) (user onBehalfOf : Address)
    (amount index : Nat) : Result (Bool × VariableDebtToken) := do
  let borrowAllowances ← spendBorrowAllowance token.borrowAllowances user onBehalfOf amount
  let previousBalance := token.toIncentivizedERC20.balanceOf onBehalfOf
  let amountScaled ← rayDiv amount index
  require (amountScaled ≠ 0) .ctInvalidMintAmount
  let base ← token.toIncentivizedERC20.mint onBehalfOf amountScaled
  pure (previousBalance == 0, ⟨base, borrowAllowances⟩)

def VariableDebtToken.burn (token : VariableDebtToken) (user : Address) (amount index : Nat) :
    Result VariableDebtToken := do
  let amountScaled ← rayDiv amount index
  require (amountScaled ≠ 0) .ctInvalidBurnAmount
  let base ← token.toIncentivizedERC20.burn user amountScaled
  pure { token with toIncentivizedERC20 := base }

theorem VariableDebtToken.mint_eq_ok {token token' : VariableDebtToken} {user u : Address}
    {amount index : Nat} {first : Bool}
    (h : token.mint user u amount index = .ok (first, token')) :
    ∃ amountScaled, rayDiv amount index = .ok amountScaled ∧ amountScaled ≠ 0 ∧
      token'.balances = Function.update token.balances u (token.balances u + amountScaled) ∧
      token'.totalSupply = token.totalSupply + amountScaled ∧
      first = (token.balances u == 0) := by
  simp only [VariableDebtToken.mint, bind_eq_ok, require_eq_ok, pure_eq_ok, Prod.mk.injEq] at h
  obtain ⟨_, _, amountScaled, hd, _, hz, base, hb, rfl, rfl⟩ := h
  obtain ⟨hbals, htot⟩ := IncentivizedERC20.mint_eq_ok hb
  exact ⟨amountScaled, hd, hz, hbals, htot, rfl⟩

theorem VariableDebtToken.burn_eq_ok {token token' : VariableDebtToken} {u : Address}
    {amount index : Nat} (h : token.burn u amount index = .ok token') :
    ∃ amountScaled, rayDiv amount index = .ok amountScaled ∧ amountScaled ≠ 0 ∧
      amountScaled ≤ token.balances u ∧ amountScaled ≤ token.totalSupply ∧
      token'.balances = Function.update token.balances u (token.balances u - amountScaled) ∧
      token'.totalSupply = token.totalSupply - amountScaled := by
  simp only [VariableDebtToken.burn, bind_eq_ok, require_eq_ok, pure_eq_ok] at h
  obtain ⟨amountScaled, hd, _, hz, base, hb, rfl⟩ := h
  obtain ⟨⟨hbal, hsup⟩, hbals, htot⟩ := IncentivizedERC20.burn_eq_ok hb
  exact ⟨amountScaled, hd, hz, hbal, hsup, hbals, htot⟩

end ElectroLend
