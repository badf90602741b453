import ElectroLend.Math.CompoundInterest
import ElectroLend.Tokens.VariableDebtToken

namespace ElectroLend

open Outcome

/-- `balances` and `totalSupply` hold principals as of the last update of the user and of the supply. -/
structure StableDebtToken extends IncentivizedERC20 where
  borrowAllowances : Address → Address → Nat
  avgStableRate : Nat
  timestamps : Address → Nat
  usersStableRate : Address → Nat
  totalSupplyTimestamp : Nat

def StableDebtToken.empty : StableDebtToken :=
  ⟨.empty, fun _ _ => 0, 0, fun _ => 0, fun _ => 0, 0⟩

def StableDebtToken.getAverageStableRate (token : StableDebtToken) : Nat := token.avgStableRate

def StableDebtToken.getUserStableRate (token : StableDebtToken) (user : Address) : Nat :=
  token.usersStableRate user

def StableDebtToken.principalBalanceOf (token : StableDebtToken) (user : Address) : Nat :=
  token.balances user

def StableDebtToken.balanceOf (token : StableDebtToken) (blockTimestamp : Nat)
    (account : Address) : Result Nat := do
  let accountBalance := token.toIncentivizedERC20.balanceOf account
  let stableRate := token.usersStableRate account
  if accountBalance = 0 then .ok 0
  else do
    let cumulatedInterest ←
      calculateCompoundedInterest stableRate (token.timestamps account) blockTimestamp
    rayMul accountBalance cumulatedInterest

def StableDebtToken.calcTotalSupply (token : StableDebtToken) (avgRate blockTimestamp : Nat) :
    Result Nat := do
  let principalSupply := token.totalSupply
  if principalSupply = 0 then .ok 0
  else do
    let cumulatedInterest ←
      calculateCompoundedInterest avgRate token.totalSupplyTimestamp blockTimestamp
    rayMul principalSupply cumulatedInterest

/-- The overriding `totalSupply()`, read at a block timestamp. -/
def StableDebtToken.totalSupplyAt (token : StableDebtToken) (blockTimestamp : Nat) : Result Nat :=
  token.calcTotalSupply token.avgStableRate blockTimestamp

def StableDebtToken.getTotalSupplyAndAvgRate (token : StableDebtToken) (blockTimestamp : Nat) :
    Result (Nat × Nat) := do
  let avgRate := token.avgStableRate
  let supply ← token.calcTotalSupply avgRate blockTimestamp
  pure (supply, avgRate)

/-- Principal supply, accrued supply, average rate and timestamp of the supply. -/
def StableDebtToken.getSupplyData (token : StableDebtToken) (blockTimestamp : Nat) :
    Result (Nat × Nat × Nat × Nat) := do
  let avgRate := token.avgStableRate
  let supply ← token.calcTotalSupply avgRate blockTimestamp
  pure (token.totalSupply, supply, avgRate, token.totalSupplyTimestamp)

/-- Previous principal, current balance and the increase between them. -/
def StableDebtToken.calculateBalanceIncrease (token : StableDebtToken) (blockTimestamp : Nat)
    (user : Address) : Result (Nat × Nat × Nat) := do
  let previousPrincipalBalance := token.toIncentivizedERC20.balanceOf user
  if previousPrincipalBalance = 0 then .ok (0, 0, 0)
  else do
    let balance ← token.balanceOf blockTimestamp user
    let balanceIncrease ←
      SafeMath.sub balance previousPrincipalBalance .safeMathSubtractionOverflow
    let currentBalance ← SafeMath.add previousPrincipalBalance balanceIncrease
    pure (previousPrincipalBalance, currentBalance, balanceIncrease)

/-- Rate of `balance` at `rate` joined by `amount` at `newRate`, the whole being `total`. -/
def weightedRate (rate balance newRate amount total : Nat) : Result Nat := do
  let balanceInRay ← wadToRay balance
  let firstTerm ← rayMul rate balanceInRay
  let amountInRay ← wadToRay amount
  let secondTerm ← rayMul newRate amountInRay
  let sum ← SafeMath.add firstTerm secondTerm
  let totalInRay ← wadToRay total
  rayDiv sum totalInRay

/-- Whether the previous balance was 0, and the token after minting `amount` at `rate`. -/
def StableDebtToken.mint (token : StableDebtToken) (blockTimestamp : Nat)
    (user onBehalfOf : Address) (amount rate : Nat) : Result (Bool × StableDebtToken) := do
  let borrowAllowances ← spendBorrowAllowance token.borrowAllowances user onBehalfOf amount
  let (_, currentBalance, balanceIncrease) ←
    token.calculateBalanceIncrease blockTimestamp onBehalfOf
  let previousSupply ← token.totalSupplyAt blockTimestamp
  let nextSupply ← SafeMath.add previousSupply amount
  let newBalance ← SafeMath.add currentBalance amount
  let newStableRate ←
    weightedRate (token.usersStableRate onBehalfOf) currentBalance rate amount newBalance
  require (newStableRate ≤ uint128Max) .sdtStableDebtOverflow
  let newAvgStableRate ← weightedRate token.avgStableRate previousSupply rate amount nextSupply
  let minted ← SafeMath.add amount balanceIncrease
  let accountBalance ← SafeMath.add (token.balances onBehalfOf) minted
  pure (currentBalance == 0, {
    balances := Function.update token.balances onBehalfOf accountBalance
    totalSupply := nextSupply
    borrowAllowances
    avgStableRate := newAvgStableRate
    timestamps := Function.update token.timestamps onBehalfOf (uint40 blockTimestamp)
    usersStableRate := Function.update token.usersStableRate onBehalfOf newStableRate
    totalSupplyTimestamp := uint40 blockTimestamp })

/-- Average rate and total supply that `burn` stores. -/
def StableDebtToken.supplyAfterBurn (token : StableDebtToken)
    (previousSupply userStableRate amount : Nat) : Result (Nat × Nat) :=
  -- the total and the users accrue separately: a burn beyond the total resets it
  if previousSupply ≤ amount then .ok (0, 0)
  else do
    let nextSupply ← SafeMath.sub previousSupply amount .safeMathSubtractionOverflow
    let previousSupplyInRay ← wadToRay previousSupply
    let firstTerm ← rayMul token.avgStableRate previousSupplyInRay
    let amountInRay ← wadToRay amount
    let secondTerm ← rayMul userStableRate amountInRay
    -- the same reset when the burned rate mass exceeds that of the total
    if secondTerm ≥ firstTerm then .ok (0, 0)
    else do
      let remaining ← SafeMath.sub firstTerm secondTerm .safeMathSubtractionOverflow
      let nextSupplyInRay ← wadToRay nextSupply
      let newAvgStableRate ← rayDiv remaining nextSupplyInRay
      pure (newAvgStableRate, nextSupply)

/-- The principal after `_mint` of the interest left over, or `_burn` of what exceeds it. -/
def principalAfterBurn (principal balanceIncrease amount : Nat) : Result Nat :=
  if balanceIncrease > amount then do
    let amountToMint ← SafeMath.sub balanceIncrease amount .safeMathSubtractionOverflow
    SafeMath.add principal amountToMint
  else do
    let amountToBurn ← SafeMath.sub amount balanceIncrease .safeMathSubtractionOverflow
    SafeMath.sub principal amountToBurn .sdtBurnExceedsBalance

def StableDebtToken.burn (token : StableDebtToken) (blockTimestamp : Nat) (user : Address)
    (amount : Nat) : Result StableDebtToken := do
  let (_, currentBalance, balanceIncrease) ← token.calculateBalanceIncrease blockTimestamp user
  let previousSupply ← token.totalSupplyAt blockTimestamp
  let userStableRate := token.usersStableRate user
  let (avgStableRate, totalSupply) ← token.supplyAfterBurn previousSupply userStableRate amount
  let closed : Bool := amount = currentBalance
  let accountBalance ← principalAfterBurn (token.balances user) balanceIncrease amount
  pure { token with
    balances := Function.update token.balances user accountBalance
    totalSupply
    avgStableRate
    timestamps :=
      Function.update token.timestamps user (if closed then 0 else uint40 blockTimestamp)
    usersStableRate :=
      if closed then Function.update token.usersStableRate user 0 else token.usersStableRate
    totalSupplyTimestamp := uint40 blockTimestamp }

section Reads

variable {token : StableDebtToken} {t : Nat} {u : Address}

theorem StableDebtToken.balanceOf_zero (h : token.balances u = 0) :
    token.balanceOf t u = .ok 0 := by
  simp [StableDebtToken.balanceOf, IncentivizedERC20.balanceOf, h]

theorem StableDebtToken.principal_le_balanceOf {balance : Nat}
    (h : token.balanceOf t u = .ok balance) : token.balances u ≤ balance := by
  simp only [StableDebtToken.balanceOf, IncentivizedERC20.balanceOf, ite_eq_ok, bind_eq_ok] at h
  rcases h with ⟨hz, _⟩ | ⟨_, interest, hc, hm⟩
  · omega
  · exact le_rayMul (calculateCompoundedInterest_ge hc) hm

theorem StableDebtToken.balanceOf_eq_zero_iff :
    token.balanceOf t u = .ok 0 ↔ token.balances u = 0 := by
  constructor
  · intro h
    have := StableDebtToken.principal_le_balanceOf h
    omega
  · exact StableDebtToken.balanceOf_zero

theorem StableDebtToken.principal_le_totalSupplyAt {supply : Nat}
    (h : token.totalSupplyAt t = .ok supply) : token.totalSupply ≤ supply := by
  simp only [StableDebtToken.totalSupplyAt, StableDebtToken.calcTotalSupply, ite_eq_ok,
    bind_eq_ok] at h
  rcases h with ⟨hz, _⟩ | ⟨_, interest, hc, hm⟩
  · omega
  · exact le_rayMul (calculateCompoundedInterest_ge hc) hm

theorem StableDebtToken.totalSupplyAt_eq_zero_iff :
    token.totalSupplyAt t = .ok 0 ↔ token.totalSupply = 0 := by
  constructor
  · intro h
    have := StableDebtToken.principal_le_totalSupplyAt h
    omega
  · intro h
    simp [StableDebtToken.totalSupplyAt, StableDebtToken.calcTotalSupply, h]

theorem StableDebtToken.calculateBalanceIncrease_eq_ok {previous balance increase : Nat}
    (h : token.calculateBalanceIncrease t u = .ok (previous, balance, increase)) :
    token.balanceOf t u = .ok balance ∧ token.balances u + increase = balance := by
  simp only [StableDebtToken.calculateBalanceIncrease, IncentivizedERC20.balanceOf, ite_eq_ok,
    bind_eq_ok, SafeMath.sub_eq_ok, SafeMath.add_eq_ok, pure_eq_ok, Except.ok.injEq,
    Prod.mk.injEq] at h
  rcases h with ⟨hz, rfl, rfl, rfl⟩ | ⟨hz, current, hb, _, ⟨hle, rfl⟩, _, ⟨_, rfl⟩, rfl, rfl, rfl⟩
  · exact ⟨StableDebtToken.balanceOf_zero hz, by omega⟩
  · rw [Nat.add_sub_of_le hle]
    exact ⟨hb, rfl⟩

end Reads

theorem StableDebtToken.mint_eq_ok {token token' : StableDebtToken} {t amount rate : Nat}
    {user u : Address} {first : Bool}
    (h : token.mint t user u amount rate = .ok (first, token')) :
    ∃ balance supply newRate newAvg, token.balanceOf t u = .ok balance ∧
      token.totalSupplyAt t = .ok supply ∧
      weightedRate (token.usersStableRate u) balance rate amount (balance + amount) = .ok newRate ∧
      newRate ≤ uint128Max ∧
      weightedRate token.avgStableRate supply rate amount (supply + amount) = .ok newAvg ∧
      first = (balance == 0) ∧
      token'.balances = Function.update token.balances u (balance + amount) ∧
      token'.totalSupply = supply + amount ∧ token'.avgStableRate = newAvg ∧
      token'.timestamps = Function.update token.timestamps u (uint40 t) ∧
      token'.usersStableRate = Function.update token.usersStableRate u newRate ∧
      token'.totalSupplyTimestamp = uint40 t := by
  simp only [StableDebtToken.mint, bind_eq_ok, require_eq_ok, SafeMath.add_eq_ok, pure_eq_ok,
    Prod.mk.injEq] at h
  obtain ⟨_, _, ⟨previous, balance, increase⟩, hinc, supply, hs, _, ⟨_, rfl⟩, _, ⟨_, rfl⟩,
    newRate, hr, _, hmax, newAvg, ha, _, ⟨_, rfl⟩, _, ⟨_, rfl⟩, rfl, rfl⟩ := h
  obtain ⟨hb, hsum⟩ := StableDebtToken.calculateBalanceIncrease_eq_ok hinc
  refine ⟨balance, supply, newRate, newAvg, hb, hs, hr, hmax, ha, rfl, ?_, rfl, rfl, rfl, rfl, rfl⟩
  dsimp only
  congr 1
  omega

theorem principalAfterBurn_eq_ok {principal increase amount principal' : Nat}
    (h : principalAfterBurn principal increase amount = .ok principal') :
    amount ≤ principal + increase ∧ principal' = principal + increase - amount := by
  simp only [principalAfterBurn, ite_eq_ok, bind_eq_ok, SafeMath.sub_eq_ok,
    SafeMath.add_eq_ok] at h
  rcases h with ⟨_, _, ⟨_, rfl⟩, _, rfl⟩ | ⟨_, _, ⟨_, rfl⟩, _, rfl⟩
  · omega
  · omega

/-- What a successful burn does to the token. -/
theorem StableDebtToken.burn_eq_ok {token token' : StableDebtToken} {t amount : Nat} {u : Address}
    (h : token.burn t u amount = .ok token') :
    ∃ balance supply, token.balanceOf t u = .ok balance ∧
      token.totalSupplyAt t = .ok supply ∧
      token.supplyAfterBurn supply (token.usersStableRate u) amount =
        .ok (token'.avgStableRate, token'.totalSupply) ∧
      amount ≤ balance ∧
      token'.balances = Function.update token.balances u (balance - amount) ∧
      token'.timestamps =
        Function.update token.timestamps u (if amount = balance then 0 else uint40 t) ∧
      token'.usersStableRate =
        (if amount = balance then Function.update token.usersStableRate u 0
          else token.usersStableRate) ∧
      token'.totalSupplyTimestamp = uint40 t := by
  simp only [StableDebtToken.burn, bind_eq_ok, pure_eq_ok] at h
  obtain ⟨⟨previous, balance, increase⟩, hinc, supply, hs, ⟨avg, next⟩, hnext, principal, hp,
    rfl⟩ := h
  obtain ⟨hb, hsum⟩ := StableDebtToken.calculateBalanceIncrease_eq_ok hinc
  obtain ⟨hle, rfl⟩ := principalAfterBurn_eq_ok hp
  dsimp only at hle ⊢
  rw [hsum] at hle ⊢
  exact ⟨balance, supply, hb, hs, hnext, hle, rfl, by simp, by simp, rfl⟩

end ElectroLend
