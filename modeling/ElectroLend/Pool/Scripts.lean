import ElectroLend.Library.TwoRuns
import ElectroLend.Pool.Steps

namespace ElectroLend

open Outcome

/-- A call with its block timestamp and its caller. -/
abbrev TimedCall := Nat × Address × Call

/-- Runs the calls one after the other; a call that reverts ends the script. -/
def runScript (pool : LendingPool) : List TimedCall → Result LendingPool
  | [] => .ok pool
  | (t, msgSender, call) :: rest => do
    let pool ← call.exec t msgSender pool
    runScript pool rest

theorem runScript_append {pool : LendingPool} {calls rest : List TimedCall} :
    runScript pool (calls ++ rest) = (do
      let pool ← runScript pool calls
      runScript pool rest) := by
  induction calls generalizing pool with
  | nil => rfl
  | cons first calls ih =>
    obtain ⟨t, msgSender, call⟩ := first
    simp only [List.cons_append, runScript, bind_assoc, ih]

/-- Non-decreasing 40-bit timestamps from `t` to `last`. -/
def timestampsOrdered (t last : Nat) : List TimedCall → Bool
  | [] => decide (t ≤ last) && decide (last < 2 ^ 40)
  | (t', _, _) :: rest => decide (t ≤ t') && decide (t' < 2 ^ 40) && timestampsOrdered t' last rest

theorem Reachable.script {t last : Nat} {pool pool' : LendingPool} {calls : List TimedCall}
    (h : Reachable .any t pool) (ordered : timestampsOrdered t last calls = true)
    (success : runScript pool calls = .ok pool') : Reachable .any last pool' := by
  induction calls generalizing t pool with
  | nil =>
    cases Except.ok.inj success
    simp only [timestampsOrdered, Bool.and_eq_true, decide_eq_true_eq] at ordered
    exact .block h ordered.1 ordered.2 (.refl _)
  | cons first rest ih =>
    obtain ⟨t', msgSender, call⟩ := first
    simp only [timestampsOrdered, Bool.and_eq_true, decide_eq_true_eq] at ordered
    simp only [runScript, bind_eq_ok] at success
    obtain ⟨middle, hcall, hrest⟩ := success
    have step : Steps .any t' pool middle := .call (.refl _) msgSender call trivial hcall
    exact ih (.block h ordered.1.1 ordered.1.2 step) ordered.2 hrest

namespace LendingPool

variable {pool pool' : LendingPool} {R : LendingPool → LendingPool → Prop}

/-- What becomes of a call that is sent: it goes through, or it reverts and changes nothing. -/
def sendCall (pool : LendingPool) : TimedCall → Result Unit × LendingPool
  | (t, msgSender, call) =>
    match call.exec t msgSender pool with
    | .ok next => (.ok (), next)
    | .error e => (.error e, pool)

/-- Sends the calls one after the other, whatever becomes of each. -/
def sendAll (pool : LendingPool) : List TimedCall → List (TimedCall × Result Unit) × LendingPool
  | [] => ([], pool)
  | sent :: rest =>
    let (answer, next) := pool.sendCall sent
    let (answers, last) := sendAll next rest
    ((sent, answer) :: answers, last)

theorem sendCall_alike {t : Nat} {msgSender : Address} {call : Call} (same : R pool pool')
    (alike : Alike R (call.exec t msgSender pool) (call.exec t msgSender pool')) :
    (pool'.sendCall (t, msgSender, call)).1 = (pool.sendCall (t, msgSender, call)).1 ∧
      R (pool.sendCall (t, msgSender, call)).2 (pool'.sendCall (t, msgSender, call)).2 := by
  simp only [sendCall]
  generalize call.exec t msgSender pool = result at alike ⊢
  generalize call.exec t msgSender pool' = result' at alike ⊢
  cases alike with
  | ok related => exact ⟨rfl, related⟩
  | error e => exact ⟨rfl, same⟩

end LendingPool

namespace Market

-- A market of two assets of one price; the accounts below 100 hold and have approved plenty of each.
def poolAddress : Address := 90
def treasury : Address := 91
def weth : Address := 1
def dai : Address := 2
def alice : Address := 10
def bob : Address := 11
def carol : Address := 12

def fundedToken : ERC20 where
  balances := fun account => if account < 100 then 10 ^ 30 else 0
  allowances := fun owner spender =>
    if owner < 100 ∧ spender = poolAddress then uint256Max else 0

def genesis : LendingPool :=
  LendingPool.initialized poolAddress (fun _ => fundedToken) (fun _ => 10 ^ 18)
    (fun _ => 3 * 10 ^ 25) (fun _ => true)

def strategy : DefaultReserveInterestRateStrategy where
  OPTIMAL_UTILIZATION_RATE := 8 * 10 ^ 26
  baseVariableBorrowRate := 0
  variableRateSlope1 := 4 * 10 ^ 25
  variableRateSlope2 := 6 * 10 ^ 26
  stableRateSlope1 := 2 * 10 ^ 25
  stableRateSlope2 := 6 * 10 ^ 26
  optimal_le_ray := by decide

/-- Loan to value 75%, liquidation threshold 80%, bonus 5%, 18 decimals, active, borrowing in both
modes enabled. -/
def configuration (reserveFactor : Nat) : ReserveConfigurationMap :=
  ⟨BitVec.ofNat 256 (7500 + 8000 * 2 ^ 16 + 10500 * 2 ^ 32 + 18 * 2 ^ 48 + 2 ^ 56 + 2 ^ 58 +
    2 ^ 59 + reserveFactor * 2 ^ 64)⟩

/-- The same with other collateral parameters, and a reserve factor of 10%. -/
def collateralConfiguration (ltv threshold bonus : Nat) : ReserveConfigurationMap :=
  ⟨BitVec.ofNat 256 (ltv + threshold * 2 ^ 16 + bonus * 2 ^ 32 + 18 * 2 ^ 48 + 2 ^ 56 + 2 ^ 58 +
    2 ^ 59 + 1000 * 2 ^ 64)⟩

def listing (asset : Address) : LendingPool.InitReserveInput where
  underlyingAsset := asset
  underlyingAssetDecimals := 18
  treasury := treasury
  elTokenAddress := 100 + 10 * asset
  stableDebtTokenAddress := 101 + 10 * asset
  variableDebtTokenAddress := 102 + 10 * asset
  interestRateStrategy := strategy

/-- Lists and configures the two assets. -/
def setup (reserveFactor : Nat) : List TimedCall :=
  [(0, poolAddress, .listReserve (listing weth)),
    (0, poolAddress, .setConfiguration weth (configuration reserveFactor)),
    (0, poolAddress, .listReserve (listing dai)),
    (0, poolAddress, .setConfiguration dai (configuration reserveFactor))]

theorem genesis_reachable : Reachable .any 0 genesis := .start 0 _ _ _ _ _

/-- The state a script ends in, if it runs through. -/
def endState (calls : List TimedCall) : LendingPool := (runScript genesis calls).toOption.getD genesis

theorem runScript_endState {calls : List TimedCall}
    (success : (runScript genesis calls).isOk = true) :
    runScript genesis calls = .ok (endState calls) := by
  unfold endState
  cases hr : runScript genesis calls with
  | error e =>
    rw [hr] at success
    cases success
  | ok pool => rfl

theorem endState_reachable {calls : List TimedCall} {last : Nat}
    (success : (runScript genesis calls).isOk = true)
    (ordered : timestampsOrdered 0 last calls = true) : Reachable .any last (endState calls) :=
  genesis_reachable.script ordered (runScript_endState success)

end Market

end ElectroLend
