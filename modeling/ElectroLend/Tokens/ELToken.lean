import ElectroLend.Tokens.ERC20

namespace ElectroLend

open Outcome

/-- `balances` and `totalSupply` are scaled. ELToken does not override `balanceOf` and `totalSupply`,
so both answer with the stored scaled values. -/
structure ELToken extends IncentivizedERC20 where
  allowances : Address → Address → Nat
  treasury : Address

def ELToken.scaledBalanceOf (token : ELToken) (user : Address) : Nat := token.balances user

def ELToken.scaledTotalSupply (token : ELToken) : Nat := token.totalSupply

/-- The underlying leaves the account `this` of the elToken. -/
def ELToken.burn (token : ELToken) (underlying : ERC20) (this user receiverOfUnderlying : Address)
    (amount index : Nat) : Result (ELToken × ERC20) := do
  let amountScaled ← rayDiv amount index
  require (amountScaled ≠ 0) .ctInvalidBurnAmount
  let base ← token.toIncentivizedERC20.burn user amountScaled
  let underlying ← SafeERC20.safeTransfer underlying this receiverOfUnderlying amount
  pure ({ token with toIncentivizedERC20 := base }, underlying)

/-- The flag is true when the previous balance of the user was 0. -/
def ELToken.mint (token : ELToken) (user : Address) (amount index : Nat) :
    Result (Bool × ELToken) := do
  let previousBalance := token.toIncentivizedERC20.balanceOf user
  let amountScaled ← rayDiv amount index
  require (amountScaled ≠ 0) .ctInvalidMintAmount
  let base ← token.toIncentivizedERC20.mint user amountScaled
  pure (previousBalance == 0, { token with toIncentivizedERC20 := base })

def ELToken.mintToTreasury (token : ELToken) (amount index : Nat) : Result ELToken :=
  if amount = 0 then .ok token
  else do
    let amountScaled ← rayDiv amount index
    let base ← token.toIncentivizedERC20.mint token.treasury amountScaled
    pure { token with toIncentivizedERC20 := base }

def ELToken.transferUnderlyingTo (underlying : ERC20) (this target : Address) (amount : Nat) :
    Result ERC20 :=
  SafeERC20.safeTransfer underlying this target amount

/-- `super._transfer`: moves scaled units. -/
def ELToken.transferScaled (token : ELToken) (sender recipient : Address) (amountScaled : Nat) :
    Result ELToken := do
  let balances ← moveBalance token.balances sender recipient amountScaled
  pure { token with balances }

def ELToken.approve (token : ELToken) (owner spender : Address) (amount : Nat) :
    Result ELToken := do
  require (owner ≠ 0) .erc20ApproveFromZeroAddress
  require (spender ≠ 0) .erc20ApproveToZeroAddress
  pure { token with
    allowances := Function.update token.allowances owner
      (Function.update (token.allowances owner) spender amount) }

theorem ELToken.burn_eq_ok {token token' : ELToken} {underlying underlying' : ERC20}
    {this user receiver : Address} {amount index : Nat}
    (h : token.burn underlying this user receiver amount index = .ok (token', underlying')) :
    ∃ amountScaled, rayDiv amount index = .ok amountScaled ∧ amountScaled ≠ 0 ∧
      amountScaled ≤ token.balances user ∧
      token'.balances = Function.update token.balances user (token.balances user - amountScaled) ∧
      token'.totalSupply = token.totalSupply - amountScaled ∧
      amountScaled ≤ token.totalSupply ∧ token'.treasury = token.treasury ∧
      token'.allowances = token.allowances ∧
      SafeERC20.safeTransfer underlying this receiver amount = .ok underlying' := by
  simp only [ELToken.burn, bind_eq_ok, require_eq_ok, pure_eq_ok, Prod.mk.injEq] at h
  obtain ⟨amountScaled, hd, _, hz, base, hb, _, ht, rfl, rfl⟩ := h
  obtain ⟨⟨hbal, hsup⟩, hbals, htot⟩ := IncentivizedERC20.burn_eq_ok hb
  exact ⟨amountScaled, hd, hz, hbal, hbals, htot, hsup, rfl, rfl, ht⟩

theorem ELToken.mint_eq_ok {token token' : ELToken} {user : Address} {amount index : Nat}
    {first : Bool} (h : token.mint user amount index = .ok (first, token')) :
    ∃ amountScaled, rayDiv amount index = .ok amountScaled ∧ amountScaled ≠ 0 ∧
      token'.balances = Function.update token.balances user (token.balances user + amountScaled) ∧
      token'.totalSupply = token.totalSupply + amountScaled ∧
      first = (token.balances user == 0) ∧ token'.treasury = token.treasury ∧
      token'.allowances = token.allowances := by
  simp only [ELToken.mint, bind_eq_ok, require_eq_ok, pure_eq_ok, Prod.mk.injEq] at h
  obtain ⟨amountScaled, hd, _, hz, base, hb, rfl, rfl⟩ := h
  obtain ⟨hbals, htot⟩ := IncentivizedERC20.mint_eq_ok hb
  exact ⟨amountScaled, hd, hz, hbals, htot, rfl, rfl, rfl⟩

theorem ELToken.approve_eq_ok {token token' : ELToken} {owner spender : Address} {amount : Nat}
    (h : token.approve owner spender amount = .ok token') :
    token' = { token with
      allowances := Function.update token.allowances owner
        (Function.update (token.allowances owner) spender amount) } := by
  simp only [ELToken.approve, bind_eq_ok, require_eq_ok, pure_eq_ok] at h
  obtain ⟨_, _, _, _, rfl⟩ := h
  rfl

/-- The token after `minted` scaled units have been minted to the treasury. -/
def ELToken.creditTreasury (token : ELToken) (minted : Nat) : ELToken :=
  { token with
    balances := Function.update token.balances token.treasury
      (token.balances token.treasury + minted)
    totalSupply := token.totalSupply + minted }

@[simp] theorem ELToken.creditTreasury_zero (token : ELToken) : token.creditTreasury 0 = token := by
  simp [ELToken.creditTreasury]

@[simp] theorem ELToken.creditTreasury_add (token : ELToken) (m n : Nat) :
    (token.creditTreasury m).creditTreasury n = token.creditTreasury (m + n) := by
  simp [ELToken.creditTreasury, Nat.add_assoc]

theorem ELToken.creditTreasury_other (token : ELToken) (minted : Nat) {u : Address}
    (hu : u ≠ token.treasury) : (token.creditTreasury minted).balances u = token.balances u :=
  Function.update_of_ne hu _ _

theorem ELToken.mintToTreasury_eq_ok {token token' : ELToken} {amount index : Nat}
    (h : token.mintToTreasury amount index = .ok token') :
    ∃ minted, (amount = 0 → minted = 0) ∧ (amount ≠ 0 → rayDiv amount index = .ok minted) ∧
      token' = token.creditTreasury minted := by
  unfold ELToken.mintToTreasury at h
  split at h
  next hz =>
    cases Except.ok.inj h
    exact ⟨0, fun _ => rfl, fun hne => absurd hz hne, by simp⟩
  next hz =>
    simp only [bind_eq_ok, pure_eq_ok] at h
    obtain ⟨minted, hd, ⟨balances, supply⟩, hm, rfl⟩ := h
    obtain ⟨hbals, htot⟩ := IncentivizedERC20.mint_eq_ok hm
    dsimp only at hbals htot
    subst hbals htot
    exact ⟨minted, fun he => absurd he hz, fun _ => hd, rfl⟩

end ElectroLend
