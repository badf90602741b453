import ElectroLend.Gateway.WETHGateway
import ElectroLend.Library.FiniteTotals

namespace ElectroLend

open Outcome FiniteTotals

/-- The wrapped ether, in the ether of all accounts. Nothing here is checked for overflow. -/
structure WETH9 where
  this : Address
  balanceOf : Address → BitVec 256
  allowance : Address → Address → BitVec 256
  ether : Address → Nat
  acceptsEther : Address → Bool

namespace WETH9

variable (weth : WETH9) (msgSender : Address)

def deployed (this : Address) (ether : Address → Nat) (acceptsEther : Address → Bool) : WETH9 :=
  ⟨this, fun _ => 0, fun _ _ => 0, ether, acceptsEther⟩

/-- Also what `receive` does. -/
def deposit (msgValue : Nat) : Result WETH9 := do
  let ether ← moveEther weth.ether msgSender weth.this msgValue
  pure { weth with
    ether
    balanceOf := Function.update weth.balanceOf msgSender
      (weth.balanceOf msgSender + BitVec.ofNat 256 msgValue) }

def withdraw (wad : BitVec 256) : Result WETH9 := do
  require (weth.balanceOf msgSender ≥ wad) .wethRequireFailed
  let balanceOf := Function.update weth.balanceOf msgSender (weth.balanceOf msgSender - wad)
  require (weth.acceptsEther msgSender = true) .ethTransferFailed
  let ether ← moveEther weth.ether weth.this msgSender wad.toNat
  pure { weth with balanceOf, ether }

def totalSupply : Nat := weth.ether weth.this

def approve (guy : Address) (wad : BitVec 256) : Result WETH9 :=
  .ok { weth with
    allowance := Function.update weth.allowance msgSender
      (Function.update (weth.allowance msgSender) guy wad) }

/-- What is spent of an allowance, unless it is unlimited. -/
def spendAllowance (src : Address) (wad : BitVec 256) : Result WETH9 :=
  if src ≠ msgSender ∧ weth.allowance src msgSender ≠ BitVec.allOnes 256 then do
    require (weth.allowance src msgSender ≥ wad) .wethRequireFailed
    pure { weth with
      allowance := Function.update weth.allowance src
        (Function.update (weth.allowance src) msgSender (weth.allowance src msgSender - wad)) }
  else .ok weth

def transferFrom (src dst : Address) (wad : BitVec 256) : Result WETH9 := do
  require (weth.balanceOf src ≥ wad) .wethRequireFailed
  let weth ← weth.spendAllowance msgSender src wad
  let balanceOf := Function.update weth.balanceOf src (weth.balanceOf src - wad)
  pure { weth with balanceOf := Function.update balanceOf dst (balanceOf dst + wad) }

def transfer (dst : Address) (wad : BitVec 256) : Result WETH9 :=
  weth.transferFrom msgSender msgSender dst wad

/-- Ether that is sent on its own; WETH deposits it for the sender. -/
def send (recipient : Address) (value : Nat) : Result WETH9 :=
  if recipient = weth.this then weth.deposit msgSender value
  else do
    require (weth.acceptsEther recipient = true) .ethTransferFailed
    let ether ← moveEther weth.ether msgSender recipient value
    pure { weth with ether }

/-- Ether that arrives without a call, as from a contract that destroys itself. -/
def force (recipient : Address) (value : Nat) : Result WETH9 := do
  let ether ← moveEther weth.ether msgSender recipient value
  pure { weth with ether }

end WETH9

inductive WETHCall
  | deposit (msgValue : Nat)
  | withdraw (wad : BitVec 256)
  | approve (guy : Address) (wad : BitVec 256)
  | transfer (dst : Address) (wad : BitVec 256)
  | transferFrom (src dst : Address) (wad : BitVec 256)
  | send (recipient : Address) (value : Nat)
  | force (recipient : Address) (value : Nat)

namespace WETH9

variable (weth : WETH9) (msgSender : Address)

def exec : WETHCall → Result WETH9
  | .deposit msgValue => weth.deposit msgSender msgValue
  | .withdraw wad => weth.withdraw msgSender wad
  | .approve guy wad => weth.approve msgSender guy wad
  | .transfer dst wad => weth.transfer msgSender dst wad
  | .transferFrom src dst wad => weth.transferFrom msgSender src dst wad
  | .send recipient value => weth.send msgSender recipient value
  | .force recipient value => weth.force msgSender recipient value

/-- The state after the calls, each with its sender; a call that reverts changes nothing. -/
def history (weth : WETH9) : List (Address × WETHCall) → WETH9
  | [] => weth
  | (msgSender, call) :: rest =>
    match weth.exec msgSender call with
    | .ok weth => history weth rest
    | .error _ => history weth rest

end WETH9

/-- The ether that a call forces upon an address. -/
def WETHCall.forces (this : Address) : WETHCall → Nat
  | .force recipient value => if recipient = this then value else 0
  | _ => 0

namespace WETH9

def forced (weth : WETH9) : List (Address × WETHCall) → Nat
  | [] => 0
  | (msgSender, call) :: rest =>
    match weth.exec msgSender call with
    | .ok weth' => call.forces weth.this + forced weth' rest
    | .error _ => forced weth rest

end WETH9

/-- What all accounts have together. -/
abbrev wordTotal (f : Address → BitVec 256) (total : Nat) : Prop :=
  SumsTo (BitVec.toNat ∘ f) total

variable {f : Address → BitVec 256} {total value : Nat} {a : Address}

theorem wordTotal_update {x : BitVec 256} {total' : Nat} (h : wordTotal f total)
    (difference : total + x.toNat = total' + (f a).toNat) :
    wordTotal (Function.update f a x) total' := by
  unfold wordTotal
  rw [Function.comp_update]
  exact h.update difference

theorem wordTotal_add {x : BitVec 256} (h : wordTotal f total) (fits : total + x.toNat < 2 ^ 256) :
    wordTotal (Function.update f a (f a + x)) (total + x.toNat) := by
  have hle : (f a).toNat ≤ total := h.le_total a
  have hsum : (f a + x).toNat = (f a).toNat + x.toNat := by
    rw [BitVec.toNat_add, Nat.mod_eq_of_lt (by omega)]
  refine wordTotal_update h ?_
  rw [hsum]
  omega

theorem wordTotal_sub {x : BitVec 256} (h : wordTotal f total) (covered : x ≤ f a) :
    x.toNat ≤ total ∧ wordTotal (Function.update f a (f a - x)) (total - x.toNat) := by
  have hle : (f a).toNat ≤ total := h.le_total a
  have hx : x.toNat ≤ (f a).toNat := BitVec.le_def.mp covered
  have hdiff : (f a - x).toNat = (f a).toNat - x.toNat := BitVec.toNat_sub_of_le covered
  refine ⟨hx.trans hle, wordTotal_update h ?_⟩
  rw [hdiff]
  omega

theorem moveEther_sums {ether ether' : Address → Nat} {sender recipient : Address} {supply : Nat}
    (h : SumsTo ether supply) (hmove : moveEther ether sender recipient value = .ok ether') :
    SumsTo ether' supply := by
  simp only [moveEther, bind_eq_ok, require_eq_ok, pure_eq_ok] at hmove
  obtain ⟨_, covered, rfl⟩ := hmove
  have hle : ether sender ≤ supply := h.le_total sender
  have taken : SumsTo (Function.update ether sender (ether sender - value)) (supply - value) :=
    h.update (by omega)
  exact taken.update (by omega)

end ElectroLend
