import ElectroLend.Math.MathUtils
import Mathlib.Logic.Function.Basic

namespace ElectroLend

open Outcome

/-- The common core of `_transfer` in OpenZeppelin's ERC20 and in IncentivizedERC20. -/
def moveBalance (balances : Address → Nat) (sender recipient : Address) (amount : Nat) :
    Result (Address → Nat) := do
  require (sender ≠ 0) .erc20TransferFromZeroAddress
  require (recipient ≠ 0) .erc20TransferToZeroAddress
  let senderBalance ← SafeMath.sub (balances sender) amount .erc20TransferAmountExceedsBalance
  let balances := Function.update balances sender senderBalance
  let recipientBalance ← SafeMath.add (balances recipient) amount
  pure (Function.update balances recipient recipientBalance)

theorem moveBalance_eq_ok {b b' : Address → Nat} {x y : Address} {a : Nat} (hne : x ≠ y) :
    moveBalance b x y a = .ok b' ↔ (x ≠ 0 ∧ y ≠ 0 ∧ a ≤ b x ∧ b y + a ≤ uint256Max) ∧
      b' = Function.update (Function.update b x (b x - a)) y (b y + a) := by
  simp only [moveBalance, bind_eq_ok, require_eq_ok, SafeMath.sub_eq_ok, SafeMath.add_eq_ok,
    pure_eq_ok, Function.update_of_ne hne.symm]
  constructor
  · rintro ⟨_, hx, _, hy, _, ⟨hle, rfl⟩, _, ⟨hfits, rfl⟩, rfl⟩
    exact ⟨⟨hx, hy, hle, hfits⟩, rfl⟩
  · rintro ⟨⟨hx, hy, hle, hfits⟩, rfl⟩
    exact ⟨(), hx, (), hy, _, ⟨hle, rfl⟩, _, ⟨hfits, rfl⟩, rfl⟩

theorem moveBalance_nonzero {b b' : Address → Nat} {x y : Address} {a : Nat}
    (h : moveBalance b x y a = .ok b') : x ≠ 0 ∧ y ≠ 0 := by
  simp only [moveBalance, bind_eq_ok, require_eq_ok] at h
  obtain ⟨_, hx, _, hy, _⟩ := h
  exact ⟨hx, hy⟩

theorem moveBalance_covered {b b' : Address → Nat} {x y : Address} {a : Nat}
    (h : moveBalance b x y a = .ok b') : a ≤ b x := by
  simp only [moveBalance, bind_eq_ok, SafeMath.sub_eq_ok] at h
  obtain ⟨_, _, _, _, _, ⟨hle, _⟩, _⟩ := h
  exact hle

theorem moveBalance_sender {b b' : Address → Nat} {x y : Address} {a : Nat} (hne : x ≠ y)
    (h : moveBalance b x y a = .ok b') : a ≤ b x ∧ b' x = b x - a := by
  simp only [moveBalance, bind_eq_ok, require_eq_ok, SafeMath.sub_eq_ok, SafeMath.add_eq_ok,
    pure_eq_ok] at h
  obtain ⟨_, _, _, _, _, ⟨hle, rfl⟩, _, _, rfl⟩ := h
  exact ⟨hle, by simp [hne]⟩

theorem moveBalance_recipient {b b' : Address → Nat} {x y : Address} {a : Nat} (hne : x ≠ y)
    (h : moveBalance b x y a = .ok b') : b' y = b y + a := by
  simp only [moveBalance, bind_eq_ok, require_eq_ok, SafeMath.sub_eq_ok, SafeMath.add_eq_ok,
    pure_eq_ok] at h
  obtain ⟨_, _, _, _, _, ⟨_, rfl⟩, _, ⟨_, rfl⟩, rfl⟩ := h
  simp [Ne.symm hne]

theorem moveBalance_other {b b' : Address → Nat} {x y z : Address} {a : Nat} (hx : z ≠ x)
    (hy : z ≠ y) (h : moveBalance b x y a = .ok b') : b' z = b z := by
  simp only [moveBalance, bind_eq_ok, require_eq_ok, SafeMath.sub_eq_ok, SafeMath.add_eq_ok,
    pure_eq_ok] at h
  obtain ⟨_, _, _, _, _, _, _, _, rfl⟩ := h
  simp [hx, hy]

theorem moveBalance_self {b b' : Address → Nat} {x : Address} {a : Nat}
    (h : moveBalance b x x a = .ok b') : a ≤ b x ∧ b' = b := by
  simp only [moveBalance, bind_eq_ok, require_eq_ok, SafeMath.sub_eq_ok, SafeMath.add_eq_ok,
    pure_eq_ok, Function.update_self, Function.update_idem] at h
  obtain ⟨_, _, _, _, _, ⟨hle, rfl⟩, _, ⟨_, rfl⟩, rfl⟩ := h
  refine ⟨hle, ?_⟩
  rw [Nat.sub_add_cancel hle, Function.update_eq_self]

/-- A standard ERC-20 underlying. -/
structure ERC20 where
  balances : Address → Nat
  allowances : Address → Address → Nat

def ERC20.balanceOf (token : ERC20) (account : Address) : Nat := token.balances account

def ERC20.transfer (token : ERC20) (msgSender recipient : Address) (amount : Nat) :
    Result ERC20 := do
  let balances ← moveBalance token.balances msgSender recipient amount
  pure { token with balances }

def ERC20.approve (token : ERC20) (owner spender : Address) (amount : Nat) : Result ERC20 := do
  require (owner ≠ 0) .erc20ApproveFromZeroAddress
  require (spender ≠ 0) .erc20ApproveToZeroAddress
  pure { token with
    allowances := Function.update token.allowances owner
      (Function.update (token.allowances owner) spender amount) }

def ERC20.transferFrom (token : ERC20) (msgSender sender recipient : Address) (amount : Nat) :
    Result ERC20 := do
  let token ← token.transfer sender recipient amount
  let remaining ← SafeMath.sub (token.allowances sender msgSender) amount
    .erc20TransferAmountExceedsAllowance
  token.approve sender msgSender remaining

/-- SafeERC20 replaces the reason of a failed token call by its own. -/
def SafeERC20.lowLevelCall {α : Type} (call : Result α) : Result α :=
  call.mapError fun _ => .safeERC20LowLevelCallFailed

@[simp] theorem SafeERC20.lowLevelCall_eq_ok {α : Type} {call : Result α} {a : α} :
    SafeERC20.lowLevelCall call = .ok a ↔ call = .ok a :=
  mapError_eq_ok

def SafeERC20.safeTransfer (token : ERC20) (this recipient : Address) (value : Nat) : Result ERC20 :=
  SafeERC20.lowLevelCall (token.transfer this recipient value)

def SafeERC20.safeTransferFrom (token : ERC20) (this sender recipient : Address) (value : Nat) :
    Result ERC20 :=
  SafeERC20.lowLevelCall (token.transferFrom this sender recipient value)

theorem SafeERC20.safeTransfer_balances {token token' : ERC20} {this recipient : Address} {value : Nat}
    (h : SafeERC20.safeTransfer token this recipient value = .ok token') :
    moveBalance token.balances this recipient value = .ok token'.balances ∧
      token'.allowances = token.allowances := by
  simp only [SafeERC20.safeTransfer, SafeERC20.lowLevelCall_eq_ok, ERC20.transfer, bind_eq_ok,
    pure_eq_ok] at h
  obtain ⟨balances, hm, rfl⟩ := h
  exact ⟨hm, rfl⟩

theorem SafeERC20.safeTransferFrom_balances {token token' : ERC20} {this sender recipient : Address}
    {value : Nat} (h : SafeERC20.safeTransferFrom token this sender recipient value = .ok token') :
    moveBalance token.balances sender recipient value = .ok token'.balances := by
  simp only [SafeERC20.safeTransferFrom, SafeERC20.lowLevelCall_eq_ok, ERC20.transferFrom,
    ERC20.transfer, ERC20.approve, bind_eq_ok, require_eq_ok, pure_eq_ok] at h
  obtain ⟨_, ⟨balances, hm, rfl⟩, _, _, _, _, _, _, rfl⟩ := h
  exact hm

/-- A pull spends an allowance of the sender and leaves those of the others. -/
theorem SafeERC20.safeTransferFrom_allowances {token token' : ERC20}
    {this sender recipient : Address} {value : Nat}
    (h : SafeERC20.safeTransferFrom token this sender recipient value = .ok token') :
    value ≤ token.allowances sender this ∧ ∀ owner spender,
      token'.allowances owner spender ≤ token.allowances owner spender := by
  simp only [SafeERC20.safeTransferFrom, SafeERC20.lowLevelCall_eq_ok, ERC20.transferFrom,
    ERC20.transfer, ERC20.approve, bind_eq_ok, require_eq_ok, pure_eq_ok, SafeMath.sub_eq_ok] at h
  obtain ⟨_, ⟨_, _, rfl⟩, _, ⟨hle, rfl⟩, _, _, _, _, rfl⟩ := h
  refine ⟨hle, ?_⟩
  intro owner spender
  by_cases ho : owner = sender
  · subst ho
    by_cases hs : spender = this
    · subst hs
      simp
    · simp [hs]
  · simp [ho]

/-- Storage of IncentivizedERC20 that the elToken and both debt tokens share. No incentives
controller is attached. -/
structure IncentivizedERC20 where
  balances : Address → Nat
  totalSupply : Nat

def IncentivizedERC20.empty : IncentivizedERC20 := ⟨fun _ => 0, 0⟩

abbrev IncentivizedERC20.balanceOf (token : IncentivizedERC20) (account : Address) : Nat :=
  token.balances account

def IncentivizedERC20.mint (token : IncentivizedERC20) (account : Address) (amount : Nat) :
    Result IncentivizedERC20 := do
  require (account ≠ 0) .erc20MintToZeroAddress
  let totalSupply ← SafeMath.add token.totalSupply amount
  let accountBalance ← SafeMath.add (token.balances account) amount
  pure ⟨Function.update token.balances account accountBalance, totalSupply⟩

def IncentivizedERC20.burn (token : IncentivizedERC20) (account : Address) (amount : Nat) :
    Result IncentivizedERC20 := do
  require (account ≠ 0) .erc20BurnFromZeroAddress
  let totalSupply ← SafeMath.sub token.totalSupply amount .safeMathSubtractionOverflow
  let accountBalance ←
    SafeMath.sub (token.balances account) amount .erc20BurnAmountExceedsBalance
  pure ⟨Function.update token.balances account accountBalance, totalSupply⟩

theorem IncentivizedERC20.mint_eq_ok {token token' : IncentivizedERC20} {u : Address} {a : Nat}
    (h : token.mint u a = .ok token') :
    token'.balances = Function.update token.balances u (token.balances u + a) ∧
      token'.totalSupply = token.totalSupply + a := by
  simp only [IncentivizedERC20.mint, bind_eq_ok, require_eq_ok, SafeMath.add_eq_ok,
    pure_eq_ok] at h
  obtain ⟨_, _, _, ⟨_, rfl⟩, _, ⟨_, rfl⟩, rfl⟩ := h
  exact ⟨rfl, rfl⟩

theorem IncentivizedERC20.burn_eq_ok {token token' : IncentivizedERC20} {u : Address} {a : Nat}
    (h : token.burn u a = .ok token') :
    (a ≤ token.balances u ∧ a ≤ token.totalSupply) ∧
      token'.balances = Function.update token.balances u (token.balances u - a) ∧
      token'.totalSupply = token.totalSupply - a := by
  simp only [IncentivizedERC20.burn, bind_eq_ok, require_eq_ok, SafeMath.sub_eq_ok,
    pure_eq_ok] at h
  obtain ⟨_, _, _, ⟨hs, rfl⟩, _, ⟨hb, rfl⟩, rfl⟩ := h
  exact ⟨⟨hb, hs⟩, rfl, rfl⟩

end ElectroLend
