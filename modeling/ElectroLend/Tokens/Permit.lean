import ElectroLend.Pool.Steps

namespace ElectroLend

open Outcome

/-- The fields that DOMAIN_SEPARATOR is the hash of. -/
structure PermitDomain where
  name : String
  version : String
  chainId : Nat
  verifyingContract : Address
  deriving DecidableEq

/-- The fields that the digest of a permit is the hash of. -/
structure PermitMessage where
  domain : PermitDomain
  owner : Address
  spender : Address
  value : Nat
  nonce : Nat
  deadline : Nat
  deriving DecidableEq

structure Signature where
  v : Nat
  r : Nat
  s : Nat

/-- The chain that the elTokens live on, and the names that they are initialised with. -/
structure Chain where
  chainId : Nat
  elTokenName : Address → String
  digest : PermitMessage → Nat
  ecrecover : Nat → Signature → Address

inductive PermitErrors
  | invalidOwner
  | invalidExpiration
  | invalidSignature
  | decreasedAllowanceBelowZero
  | call (e : Errors)
  deriving DecidableEq

def PermitErrors.message : PermitErrors → String
  | invalidOwner => "INVALID_OWNER"
  | invalidExpiration => "INVALID_EXPIRATION"
  | invalidSignature => "INVALID_SIGNATURE"
  | decreasedAllowanceBelowZero => "ERC20: decreased allowance below zero"
  | call e => e.message

abbrev PermitResult (α : Type) := Except PermitErrors α

/-- The storage of an elToken that only its permits use. -/
structure PermitStorage where
  domainSeparator : PermitDomain
  nonces : Address → Nat

/-- What `initialize` stores for the permits of an elToken. -/
def PermitStorage.initializer (chain : Chain) (underlyingAsset this : Address) : PermitStorage where
  domainSeparator := ⟨chain.elTokenName underlyingAsset, "1", chain.chainId, this⟩
  nonces _ := 0

namespace ELToken

variable (token : ELToken)

def permit (chain : Chain) (storage : PermitStorage) (blockTimestamp : Nat)
    (owner spender : Address) (value deadline : Nat) (signature : Signature) :
    PermitResult (PermitStorage × ELToken) := do
  require (owner ≠ 0) .invalidOwner
  require (blockTimestamp ≤ deadline) .invalidExpiration
  let currentValidNonce := storage.nonces owner
  let digest := chain.digest
    ⟨storage.domainSeparator, owner, spender, value, currentValidNonce, deadline⟩
  require (owner = chain.ecrecover digest signature) .invalidSignature
  let token ← (token.approve owner spender value).mapError .call
  -- the increment is not checked
  pure ({ storage with
    nonces := Function.update storage.nonces owner (wrap (currentValidNonce + 1)) }, token)

def increaseAllowance (msgSender spender : Address) (addedValue : Nat) : PermitResult ELToken := do
  let amount ← (SafeMath.add (token.allowances msgSender spender) addedValue).mapError .call
  (token.approve msgSender spender amount).mapError .call

def decreaseAllowance (msgSender spender : Address) (subtractedValue : Nat) :
    PermitResult ELToken := do
  require (subtractedValue ≤ token.allowances msgSender spender) .decreasedAllowanceBelowZero
  (token.approve msgSender spender (token.allowances msgSender spender - subtractedValue)).mapError
    .call

variable {token : ELToken} {token' : ELToken}

theorem permit_eq_ok {chain : Chain} {storage storage' : PermitStorage} {t : Nat}
    {owner spender : Address} {value deadline : Nat} {signature : Signature}
    (h : token.permit chain storage t owner spender value deadline signature =
      .ok (storage', token')) :
    owner ≠ 0 ∧ t ≤ deadline ∧
      chain.ecrecover (chain.digest ⟨storage.domainSeparator, owner, spender, value,
        storage.nonces owner, deadline⟩) signature = owner ∧
      token.approve owner spender value = .ok token' ∧
      storage' = { storage with
        nonces := Function.update storage.nonces owner (wrap (storage.nonces owner + 1)) } := by
  simp only [permit, bind_eq_ok, require_eq_ok, mapError_eq_ok, pure_eq_ok, Prod.mk.injEq] at h
  obtain ⟨_, howner, _, hdeadline, _, hsigned, _, happrove, rfl, rfl⟩ := h
  exact ⟨howner, hdeadline, hsigned.symm, happrove, rfl⟩

theorem increaseAllowance_eq_ok {msgSender spender : Address} {addedValue : Nat}
    (h : token.increaseAllowance msgSender spender addedValue = .ok token') :
    token.approve msgSender spender (token.allowances msgSender spender + addedValue) =
      .ok token' := by
  simp only [increaseAllowance, bind_eq_ok, mapError_eq_ok, SafeMath.add_eq_ok] at h
  obtain ⟨_, ⟨_, rfl⟩, happrove⟩ := h
  exact happrove

theorem decreaseAllowance_eq_ok {msgSender spender : Address} {subtractedValue : Nat}
    (h : token.decreaseAllowance msgSender spender subtractedValue = .ok token') :
    token.approve msgSender spender (token.allowances msgSender spender - subtractedValue) =
      .ok token' := by
  simp only [decreaseAllowance, bind_eq_ok, mapError_eq_ok] at h
  obtain ⟨_, _, happrove⟩ := h
  exact happrove

theorem approve_allowances {owner spender u c : Address} {amount : Nat}
    (h : token.approve owner spender amount = .ok token') :
    token'.allowances u c =
      if owner = u ∧ spender = c then amount else token.allowances u c := by
  obtain rfl := approve_eq_ok h
  by_cases hu : u = owner
  · subst hu
    by_cases hc : c = spender
    · subst hc
      simp
    · simp [hc, Ne.symm hc]
  · simp [hu, Ne.symm hu]

end ELToken

/-- A pool whose elTokens take permits. -/
structure SignedPool where
  lendingPool : LendingPool
  storage : Address → PermitStorage

/-- The functions of an elToken that change allowances, besides `approve` and `transferFrom`. -/
inductive AllowanceCall
  | permit (asset owner spender : Address) (value deadline : Nat) (signature : Signature)
  | increaseAllowance (asset spender : Address) (addedValue : Nat)
  | decreaseAllowance (asset spender : Address) (subtractedValue : Nat)

namespace SignedPool

variable (s : SignedPool) (chain : Chain) (blockTimestamp : Nat) (msgSender : Address)

def elToken (asset : Address) : PermitResult ELToken := do
  (requireContract (s.lendingPool.reserves asset).elTokenAddress).mapError .call
  pure (s.lendingPool.reserves asset).elToken

def setELToken (asset : Address) (elToken : ELToken) : SignedPool :=
  { s with
    lendingPool := s.lendingPool.setReserve asset { s.lendingPool.reserves asset with elToken } }

def exec : AllowanceCall → PermitResult SignedPool
  | .permit asset owner spender value deadline signature => do
    let elToken ← s.elToken asset
    let (storage, elToken) ← elToken.permit chain (s.storage asset) blockTimestamp owner spender
      value deadline signature
    pure { s.setELToken asset elToken with storage := Function.update s.storage asset storage }
  | .increaseAllowance asset spender addedValue => do
    let elToken ← s.elToken asset
    let elToken ← elToken.increaseAllowance msgSender spender addedValue
    pure (s.setELToken asset elToken)
  | .decreaseAllowance asset spender subtractedValue => do
    let elToken ← s.elToken asset
    let elToken ← elToken.decreaseAllowance msgSender spender subtractedValue
    pure (s.setELToken asset elToken)

/-- After a call of the pool: a listing initialises an elToken. -/
def afterCall (lendingPool : LendingPool) : Call → SignedPool
  | .listReserve input =>
    { lendingPool
      storage := Function.update s.storage input.underlyingAsset
        (.initializer chain input.underlyingAsset input.elTokenAddress) }
  | _ => { s with lendingPool }

end SignedPool

end ElectroLend
