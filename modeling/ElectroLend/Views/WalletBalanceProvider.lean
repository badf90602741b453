import ElectroLend.Library.Loops
import ElectroLend.Views.DataProviders

namespace ElectroLend

open Outcome

/-- The revert of the provider, or of a contract that it asked. -/
inductive WalletErrors
  | invalidToken
  | tokenReverted
  deriving DecidableEq

def WalletErrors.message : WalletErrors → String
  | invalidToken => "INVALID_TOKEN"
  | tokenReverted => ""

def MOCK_ETH_ADDRESS : Address := 0xEeeeeEeeeEeEeeEeEeEeeEEEeeeeEeeeeeeeEEeE

namespace WalletBalanceProvider

variable (pool : LendingPool) (ether : Address → Nat) (others : Address → Address → Option Nat)

/-- What the `balanceOf` of a contract answers: the listed assets are ERC20s, and any other contract
gives the answer of `others`, or none. -/
def tokenBalanceOf (token user : Address) : Except WalletErrors Nat :=
  if token ∈ pool.getReservesList then .ok ((pool.tokens token).balanceOf user)
  else
    match others token user with
    | some balance => .ok balance
    | none => .error .tokenReverted

def balanceOf (user token : Address) : Except WalletErrors Nat :=
  if token = MOCK_ETH_ADDRESS then .ok (ether user)
  else if pool.isContract token then tokenBalanceOf pool others token user
  else .error .invalidToken

/-- The outer loop of `batchBalanceOf`, over the users that are left at position `i`. -/
def fillUsers (tokens : List Address) : Nat → List Address → List Nat → Except WalletErrors (List Nat)
  | _, [], balances => .ok balances
  | i, user :: users, balances => do
    let balances ← fill (balanceOf pool ether others user) (i * tokens.length) 0 tokens balances
    fillUsers tokens (i + 1) users balances

def batchBalanceOf (users tokens : List Address) : Except WalletErrors (List Nat) :=
  fillUsers pool ether others tokens 0 users (List.replicate (users.length * tokens.length) 0)

/-- The balance of a reserve that is not active is not read. -/
def reserveBalance (user asset : Address) : Except WalletErrors Nat :=
  let flags := (pool.reserves asset).configuration.getFlagsMemory
  if !flags.isActive then .ok 0 else balanceOf pool ether others user asset

/-- The reserves with ether as the last, and the balances of the user. -/
def getUserWalletBalances (user : Address) : Except WalletErrors (List Address × List Nat) := do
  let reserves := pool.getReservesList
  let balances ← reserves.mapM (reserveBalance pool ether others user)
  let inEther ← balanceOf pool ether others user MOCK_ETH_ADDRESS
  pure (reserves ++ [MOCK_ETH_ADDRESS], balances ++ [inEther])

end WalletBalanceProvider

end ElectroLend
