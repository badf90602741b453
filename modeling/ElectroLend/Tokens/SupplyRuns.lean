import ElectroLend.Library.FiniteTotals
import ElectroLend.Tokens.ELToken
import ElectroLend.Tokens.VariableDebtToken

namespace ElectroLend

open Outcome FiniteTotals

/-- What the pool answers an elToken that calls it back during a transfer. -/
structure PoolAnswers where
  getReserveNormalizedIncome : Result Nat
  finalizeTransfer : (sender recipient : Address) →
    (amount balanceFromBefore balanceToBefore : Nat) → Result Unit

/-- `_transfer` of the elToken. -/
def ELToken.transferValidated (token : ELToken) (pool : PoolAnswers) (sender recipient : Address)
    (amount : Nat) (validate : Bool) : Result ELToken := do
  let index ← pool.getReserveNormalizedIncome
  let fromBalanceBefore ← rayMul (token.scaledBalanceOf sender) index
  let toBalanceBefore ← rayMul (token.scaledBalanceOf recipient) index
  let amountScaled ← rayDiv amount index
  let token ← token.transferScaled sender recipient amountScaled
  if validate then do
    pool.finalizeTransfer sender recipient amount fromBalanceBefore toBalanceBefore
    pure token
  else .ok token

inductive ELTokenCall
  | mint (user : Address) (amount index : Nat)
  | burn (underlying : ERC20) (this user receiverOfUnderlying : Address) (amount index : Nat)
  | mintToTreasury (amount index : Nat)
  | transfer (pool : PoolAnswers) (msgSender recipient : Address) (amount : Nat)
  | transferFrom (pool : PoolAnswers) (msgSender sender recipient : Address) (amount : Nat)
  | transferOnLiquidation (pool : PoolAnswers) (sender recipient : Address) (value : Nat)
  | approve (owner spender : Address) (amount : Nat)

def ELToken.exec (token : ELToken) : ELTokenCall → Result ELToken
  | .mint user amount index => do
    let (_, token) ← token.mint user amount index
    pure token
  | .burn underlying this user receiverOfUnderlying amount index => do
    let (token, _) ← token.burn underlying this user receiverOfUnderlying amount index
    pure token
  | .mintToTreasury amount index => token.mintToTreasury amount index
  | .transfer pool msgSender recipient amount =>
    token.transferValidated pool msgSender recipient amount true
  | .transferFrom pool msgSender sender recipient amount => do
    let token ← token.transferValidated pool sender recipient amount true
    let remaining ← SafeMath.sub (token.allowances sender msgSender) amount
      .erc20TransferAmountExceedsAllowance
    token.approve sender msgSender remaining
  | .transferOnLiquidation pool sender recipient value =>
    token.transferValidated pool sender recipient value false
  | .approve owner spender amount => token.approve owner spender amount

/-- The accounts a transfer names: none when it is to oneself. -/
def transferAccounts (sender recipient : Address) : List Address :=
  if sender = recipient then [] else [sender, recipient]

/-- The accounts whose elTokens a call names. -/
def ELTokenCall.accounts (treasury : Address) : ELTokenCall → List Address
  | mint user _ _ => [user]
  | burn _ _ user _ _ _ => [user]
  | mintToTreasury _ _ => [treasury]
  | transfer _ msgSender recipient _ => transferAccounts msgSender recipient
  | transferFrom _ _ sender recipient _ => transferAccounts sender recipient
  | transferOnLiquidation _ sender recipient _ => transferAccounts sender recipient
  | approve _ _ _ => []

inductive VariableDebtCall
  | mint (user onBehalfOf : Address) (amount index : Nat)
  | burn (user : Address) (amount index : Nat)
  | approveDelegation (delegator delegatee : Address) (amount : Nat)

def VariableDebtToken.exec (token : VariableDebtToken) : VariableDebtCall → Result VariableDebtToken
  | .mint user onBehalfOf amount index => do
    let (_, token) ← token.mint user onBehalfOf amount index
    pure token
  | .burn user amount index => token.burn user amount index
  | .approveDelegation delegator delegatee amount =>
    .ok { token with
      borrowAllowances := Function.update token.borrowAllowances delegator
        (Function.update (token.borrowAllowances delegator) delegatee amount) }

def VariableDebtCall.accounts : VariableDebtCall → List Address
  | mint _ onBehalfOf _ _ => [onBehalfOf]
  | burn user _ _ => [user]
  | approveDelegation _ _ _ => []

/-- The accounts outside the list keep their balances, and the supply is still the sum of all
balances, if it was. -/
structure IncentivizedERC20.Accounted (token token' : IncentivizedERC20) (accounts : List Address) :
    Prop where
  others : ∀ u, u ∉ accounts → token'.balances u = token.balances u
  supply : SumsTo token.balances token.totalSupply → SumsTo token'.balances token'.totalSupply

namespace IncentivizedERC20.Accounted

variable {token token' : IncentivizedERC20} {u v : Address} {amount : Nat}

theorem refl (accounts : List Address) (token : IncentivizedERC20) :
    Accounted token token accounts where
  others _ _ := rfl
  supply h := h

theorem of_update (hbalances : token'.balances = Function.update token.balances u amount)
    (hsupply : token.totalSupply + amount = token'.totalSupply + token.balances u) :
    Accounted token token' [u] where
  others v hv := by
    rw [hbalances]
    exact Function.update_of_ne (List.ne_of_not_mem_cons hv) _ _
  supply h := by
    rw [hbalances]
    exact h.update hsupply

theorem of_mint (hbalances : token'.balances = Function.update token.balances u
      (token.balances u + amount)) (hsupply : token'.totalSupply = token.totalSupply + amount) :
    Accounted token token' [u] :=
  of_update hbalances (by omega)

theorem of_burn (hbalances : token'.balances = Function.update token.balances u
      (token.balances u - amount)) (hsupply : token'.totalSupply = token.totalSupply - amount)
    (hbalance : amount ≤ token.balances u) (hle : amount ≤ token.totalSupply) :
    Accounted token token' [u] :=
  of_update hbalances (by omega)

theorem of_move (h : moveBalance token.balances u v amount = .ok token'.balances)
    (hsupply : token'.totalSupply = token.totalSupply) :
    Accounted token token' (transferAccounts u v) := by
  by_cases huv : u = v
  · subst huv
    obtain ⟨_, hbalances⟩ := moveBalance_self h
    refine ⟨fun w _ => by rw [hbalances], fun hsum => ?_⟩
    rw [hbalances, hsupply]
    exact hsum
  · obtain ⟨⟨_, _, hle, _⟩, hbalances⟩ := (moveBalance_eq_ok huv).mp h
    refine ⟨?_, ?_⟩
    · intro w hw
      rw [transferAccounts, if_neg huv] at hw
      have hwu : w ≠ u := List.ne_of_not_mem_cons hw
      have hwv : w ≠ v := List.ne_of_not_mem_cons (List.not_mem_of_not_mem_cons hw)
      exact moveBalance_other hwu hwv h
    · intro hsum
      have received : SumsTo (Function.update token.balances v (token.balances v + amount))
          (token.totalSupply + amount) := hsum.update (by omega)
      rw [hbalances, hsupply, Function.update_comm huv]
      refine received.update ?_
      rw [Function.update_of_ne huv]
      omega

end IncentivizedERC20.Accounted

open IncentivizedERC20

namespace ELToken

variable {token token' : ELToken} {u v : Address} {amount : Nat} {call : ELTokenCall}

/-- A transfer moves the scaled units of its amount at the income that the pool answers. -/
theorem transferValidated_eq_ok {pool : PoolAnswers} {validate : Bool}
    (h : token.transferValidated pool u v amount validate = .ok token') :
    ∃ index scaled, pool.getReserveNormalizedIncome = .ok index ∧
      rayDiv amount index = .ok scaled ∧
      moveBalance token.balances u v scaled = .ok token'.balances ∧
      token'.totalSupply = token.totalSupply := by
  simp only [transferValidated, transferScaled, bind_eq_ok, pure_eq_ok] at h
  obtain ⟨index, hindex, _, _, _, _, scaled, hd, moved, ⟨balances, hm, rfl⟩, h⟩ := h
  cases validate with
  | true =>
    obtain ⟨_, _, hmoved⟩ := bind_eq_ok.mp h
    cases Except.ok.inj hmoved
    exact ⟨index, scaled, hindex, hd, hm, rfl⟩
  | false =>
    cases Except.ok.inj h
    exact ⟨index, scaled, hindex, hd, hm, rfl⟩

theorem transferValidated_accounted {pool : PoolAnswers} {validate : Bool}
    (h : token.transferValidated pool u v amount validate = .ok token') :
    Accounted token.toIncentivizedERC20 token'.toIncentivizedERC20 (transferAccounts u v) := by
  obtain ⟨_, _, _, _, hm, hsupply⟩ := transferValidated_eq_ok h
  exact .of_move hm hsupply

theorem approve_base (h : token.approve u v amount = .ok token') :
    token'.toIncentivizedERC20 = token.toIncentivizedERC20 := by
  rw [approve_eq_ok h]

theorem exec_accounted (h : token.exec call = .ok token') :
    Accounted token.toIncentivizedERC20 token'.toIncentivizedERC20
      (call.accounts token.treasury) := by
  cases call with
  | mint user amount index =>
    simp only [exec, bind_eq_ok, pure_eq_ok] at h
    obtain ⟨⟨first, _⟩, hm, rfl⟩ := h
    obtain ⟨_, _, _, hbalances, hsupply, _⟩ := mint_eq_ok hm
    exact .of_mint hbalances hsupply
  | burn underlying this user receiverOfUnderlying amount index =>
    simp only [exec, bind_eq_ok, pure_eq_ok] at h
    obtain ⟨⟨_, underlying'⟩, hb, rfl⟩ := h
    obtain ⟨_, _, _, hbalance, hbalances, hsupply, hle, _⟩ := burn_eq_ok hb
    exact .of_burn hbalances hsupply hbalance hle
  | mintToTreasury amount index =>
    obtain ⟨minted, _, _, rfl⟩ := mintToTreasury_eq_ok h
    exact .of_mint rfl rfl
  | transfer pool msgSender recipient amount => exact transferValidated_accounted h
  | transferFrom pool msgSender sender recipient amount =>
    simp only [exec, bind_eq_ok] at h
    obtain ⟨moved, hm, remaining, _, happrove⟩ := h
    rw [approve_base happrove]
    exact transferValidated_accounted hm
  | transferOnLiquidation pool sender recipient value => exact transferValidated_accounted h
  | approve owner spender amount =>
    have same := approve_base (show token.approve owner spender amount = .ok token' from h)
    rw [same]
    exact .refl _ _

end ELToken

namespace VariableDebtToken

variable {token token' : VariableDebtToken} {call : VariableDebtCall}

theorem exec_accounted (h : token.exec call = .ok token') :
    Accounted token.toIncentivizedERC20 token'.toIncentivizedERC20 call.accounts := by
  cases call with
  | mint user onBehalfOf amount index =>
    simp only [exec, bind_eq_ok, pure_eq_ok] at h
    obtain ⟨⟨first, _⟩, hm, rfl⟩ := h
    obtain ⟨_, _, _, hbalances, hsupply, _⟩ := mint_eq_ok hm
    exact .of_mint hbalances hsupply
  | burn user amount index =>
    obtain ⟨_, _, _, hbalance, hle, hbalances, hsupply⟩ := burn_eq_ok h
    exact .of_burn hbalances hsupply hbalance hle
  | approveDelegation delegator delegatee amount =>
    cases Except.ok.inj h
    exact .refl _ _

end VariableDebtToken

end ElectroLend
