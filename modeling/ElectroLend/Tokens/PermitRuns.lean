import ElectroLend.Properties.ListingFrames
import ElectroLend.Pool.CallDeeds
import ElectroLend.Tokens.Permit

namespace ElectroLend

open Outcome LendingPool

/-- A permit, an amount that the owner approves or adds itself, and an amount that a spender moves. -/
inductive AllowanceEvent
  | permitted (asset : Address) (message : PermitMessage)
  | granted (asset owner spender : Address) (amount : Nat)
  | spent (asset owner spender : Address) (amount : Nat)
  deriving DecidableEq

def Call.allowanceEvents (msgSender : Address) : Call → List AllowanceEvent
  | elTokenApprove asset spender amount => [.granted asset msgSender spender amount]
  | elTokenTransferFrom asset sender _ amount => [.spent asset sender msgSender amount]
  | _ => []

def SignedPool.allowanceEvents (s : SignedPool) (msgSender : Address) :
    AllowanceCall → List AllowanceEvent
  | .permit asset owner spender value deadline _ =>
    [.permitted asset ⟨(s.storage asset).domainSeparator, owner, spender, value,
      (s.storage asset).nonces owner, deadline⟩]
  | .increaseAllowance asset spender addedValue => [.granted asset msgSender spender addedValue]
  | .decreaseAllowance _ _ _ => []

/-- Successful calls of the pool and its tokens, and flash loans, in one block, with what happens to
the allowances. -/
inductive SignedSteps (chain : Chain) (rules : Rules) (t : Nat) :
    List AllowanceEvent → SignedPool → SignedPool → Prop
  | refl (s : SignedPool) : SignedSteps chain rules t [] s s
  | call {events : List AllowanceEvent} {start s : SignedPool} {pool' : LendingPool}
      (before : SignedSteps chain rules t events start s) (msgSender : Address) (call : Call)
      (allowed : rules.call s.lendingPool msgSender call)
      (success : call.exec t msgSender s.lendingPool = .ok pool') :
      SignedSteps chain rules t (events ++ call.allowanceEvents msgSender) start
        (s.afterCall chain pool' call)
  | allowance {events : List AllowanceEvent} {start s s' : SignedPool}
      (before : SignedSteps chain rules t events start s) (msgSender : Address)
      (call : AllowanceCall) (success : s.exec chain t msgSender call = .ok s') :
      SignedSteps chain rules t (events ++ s.allowanceEvents msgSender call) start s'
  | flashLoan {events inner : List AllowanceEvent} {start s returned : SignedPool}
      {sent pool' : LendingPool} {answer : Bool} {entries : List FlashLoanEntry}
      (before : SignedSteps chain rules t events start s) (msgSender receiver : Address)
      (assets : List Address) (amounts modes : List Nat) (onBehalfOf : Address)
      (executeOperation : LendingPool → Result (Bool × LendingPool))
      (allowed : rules.flashLoan s.lendingPool msgSender receiver)
      (sending : s.lendingPool.sendFlashLoan receiver (assets.zip amounts) = .ok (entries, sent))
      (called : executeOperation sent = .ok (answer, returned.lendingPool))
      (callback : SignedSteps chain rules t inner { s with lendingPool := sent } returned)
      (success : s.lendingPool.flashLoan t .lendingPool msgSender receiver assets amounts modes
        onBehalfOf executeOperation = .ok pool') :
      SignedSteps chain rules t (events ++ inner) start { returned with lendingPool := pool' }

/-- What happens to the allowances in a whole run, from the deployment of the pool. -/
inductive SignedHistory (chain : Chain) (rules : Rules) :
    Nat → List AllowanceEvent → SignedPool → Prop
  | start (t : Nat) (this : Address) (tokens : Address → ERC20)
      (priceOracle lendingRateOracle : Address → Nat) (isContract : Address → Bool)
      (storage : Address → PermitStorage) : SignedHistory chain rules t []
        ⟨LendingPool.initialized this tokens priceOracle lendingRateOracle isContract, storage⟩
  | block {t t' : Nat} {past new : List AllowanceEvent} {s s' : SignedPool}
      (before : SignedHistory chain rules t past s) (later : t ≤ t') (timestamp : IsBlockTimestamp t')
      (steps : SignedSteps chain rules t' new s s') : SignedHistory chain rules t' (past ++ new) s'

/-- What the calls of the pool, the allowance calls and the two halves of a flash loan preserve. -/
structure SignedInvariant (chain : Chain) (P : List AllowanceEvent → SignedPool → Prop) : Prop where
  call : ∀ t past s pool' msgSender call, P past s → call.exec t msgSender s.lendingPool = .ok pool' →
    P (past ++ call.allowanceEvents msgSender) (s.afterCall chain pool' call)
  allowance : ∀ t past s s' msgSender call, P past s → s.exec chain t msgSender call = .ok s' →
    P (past ++ s.allowanceEvents msgSender call) s'
  send : ∀ past s pool' receiver loans entries, P past s →
    s.lendingPool.sendFlashLoan receiver loans = .ok (entries, pool') →
    P past { s with lendingPool := pool' }
  settle : ∀ t past s pool' msgSender receiver onBehalfOf entries modes, P past s →
    s.lendingPool.settleFlashLoan t .lendingPool msgSender receiver onBehalfOf entries modes =
      .ok pool' → P past { s with lendingPool := pool' }

namespace SignedInvariant

variable {chain : Chain} {rules : Rules} {P : List AllowanceEvent → SignedPool → Prop} {t : Nat}
  {past events : List AllowanceEvent} {s s' : SignedPool}

theorem steps (inv : SignedInvariant chain P) (run : SignedSteps chain rules t events s s')
    (initial : P past s) : P (past ++ events) s' := by
  induction run generalizing past with
  | refl =>
    rw [List.append_nil]
    exact initial
  | call _ msgSender call _ success ih =>
    rw [← List.append_assoc]
    exact inv.call _ _ _ _ _ _ (ih initial) success
  | allowance _ msgSender call success ih =>
    rw [← List.append_assoc]
    exact inv.allowance _ _ _ _ _ _ (ih initial) success
  | flashLoan _ _ _ _ _ _ _ _ _ sending called _ success ih inner =>
    obtain ⟨_, entries', sent', answer', returned', hsend, hanswer, hsettle⟩ :=
      flashLoan_eq_ok success
    cases ok_unique sending hsend
    cases ok_unique called hanswer
    rw [← List.append_assoc]
    exact inv.settle _ _ _ _ _ _ _ _ _ (inner (inv.send _ _ _ _ _ _ (ih initial) sending)) hsettle

theorem history (inv : SignedInvariant chain P)
    (deployed : ∀ this tokens priceOracle lendingRateOracle isContract storage,
      P [] ⟨LendingPool.initialized this tokens priceOracle lendingRateOracle isContract, storage⟩)
    (run : SignedHistory chain rules t events s) : P events s := by
  induction run with
  | start => exact deployed _ _ _ _ _ _
  | block _ _ _ steps ih => exact inv.steps steps ih

end SignedInvariant

end ElectroLend
