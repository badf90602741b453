import ElectroLend.Pool.SameButPrices
import ElectroLend.Pool.Scripts
import ElectroLend.Pool.Visits

namespace ElectroLend

open Outcome LendingPool

variable {pool pool' after : LendingPool} {t t' : Nat} {msgSender : Address}

/-- A call for which it does not matter what anything is worth. A transfer of elTokens looks at the
account of the sender as soon as a bit of it is set, whether it borrows or not. -/
def Call.Unpriced (pool : LendingPool) (msgSender : Address) : Call → Prop
  | borrow _ _ _ _ | liquidationCall _ _ _ _ _ => False
  | withdraw asset _ _ => pool.Exempt asset msgSender
  | setUserUseReserveAsCollateral asset useAsCollateral =>
    useAsCollateral = false → pool.Exempt asset msgSender
  | elTokenTransfer _ _ _ => (pool.usersConfig msgSender).isEmpty = true
  | elTokenTransferFrom _ sender _ _ => (pool.usersConfig sender).isEmpty = true
  | _ => True

/-- Every call of the list is unpriced in the state in which it is sent. -/
def LendingPool.SendsUnpriced (pool : LendingPool) : List TimedCall → Prop
  | [] => True
  | sent :: rest =>
    sent.2.2.Unpriced pool sent.2.1 ∧ LendingPool.SendsUnpriced (pool.sendCall sent).2 rest

def Call.setsPrice : Call → Bool
  | setAssetPrice _ _ => true
  | _ => false

def withoutPrices (calls : List TimedCall) : List TimedCall :=
  calls.filter fun sent => !sent.2.2.setsPrice

theorem Call.exec_unpriced (same : pool.SameButPrices pool') {call : Call}
    (unpriced : call.Unpriced pool msgSender) :
    Alike SameButPrices (call.exec t msgSender pool) (call.exec t msgSender pool') := by
  cases call with
  | deposit a amount onBehalfOf => exact same.deposit
  | withdraw a amount recipient =>
    refine (same.withdraw unpriced).map ?_
    rintro _ _ ⟨_, same⟩
    exact same
  | borrow a amount interestRateMode onBehalfOf => exact unpriced.elim
  | repay a amount rateMode onBehalfOf =>
    refine same.repay.map ?_
    rintro _ _ ⟨_, same⟩
    exact same
  | swapBorrowRateMode a rateMode => exact same.swapBorrowRateMode
  | rebalanceStableBorrowRate a user => exact same.rebalanceStableBorrowRate
  | setUserUseReserveAsCollateral a useAsCollateral =>
    exact same.setUserUseReserveAsCollateral unpriced
  | liquidationCall collateralAsset debtAsset user debtToCover receiveLToken =>
    exact unpriced.elim
  | elTokenTransfer a recipient amount => exact same.elTokenTransfer unpriced
  | elTokenTransferFrom a sender recipient amount => exact same.elTokenTransferFrom unpriced
  | elTokenApprove a spender amount => exact same.elTokenApprove
  | approve a spender amount => exact same.callToken (·.approve msgSender spender amount)
  | transfer a recipient amount => exact same.callToken (·.transfer msgSender recipient amount)
  | transferFrom a sender recipient amount =>
    exact same.callToken (·.transferFrom msgSender sender recipient amount)
  | listReserve input => exact same.listReserve
  | approveStableDelegation a delegatee amount =>
    obtain ⟨prices⟩ := same
    exact .ok (.mk prices)
  | approveVariableDelegation a delegatee amount =>
    obtain ⟨prices⟩ := same
    exact .ok (.mk prices)
  | setConfiguration a configuration => exact .ok (same.setConfiguration configuration)
  | setReserveInterestRateStrategy a strategy =>
    obtain ⟨prices⟩ := same
    exact .ok (.mk prices)
  | setPause val =>
    obtain ⟨prices⟩ := same
    exact .ok (.mk prices)
  | setAssetPrice a price =>
    obtain ⟨prices⟩ := same
    exact .ok (.mk _)
  | setMarketBorrowRate a rate =>
    obtain ⟨prices⟩ := same
    exact .ok (.mk prices)

/-- The other pool gives the same answers to the calls that set no price, and needs no others. -/
theorem LendingPool.SameButPrices.sendAll (same : pool.SameButPrices pool') {calls : List TimedCall}
    (unpriced : pool.SendsUnpriced calls) :
    (pool'.sendAll (withoutPrices calls)).1 =
        (pool.sendAll calls).1.filter (fun answer => !answer.1.2.2.setsPrice) ∧
      (pool.sendAll calls).2.SameButPrices (pool'.sendAll (withoutPrices calls)).2 := by
  induction calls generalizing pool pool' with
  | nil => exact ⟨rfl, same⟩
  | cons sent rest ih =>
    obtain ⟨t, msgSender, call⟩ := sent
    obtain ⟨now, later⟩ := unpriced
    cases sets : call.setsPrice with
    | true =>
      have next : (pool.sendCall (t, msgSender, call)).2.SameButPrices pool' := by
        cases call with
        | setAssetPrice asset price => exact same.setPrices _
        | _ => cases sets
      obtain ⟨answers, last⟩ := ih next later
      have skipped : withoutPrices ((t, msgSender, call) :: rest) = withoutPrices rest := by
        simp [withoutPrices, sets]
      rw [skipped, answers]
      simp only [LendingPool.sendAll, List.filter_cons, sets, Bool.not_true, Bool.false_eq_true,
        if_false]
      exact ⟨trivial, last⟩
    | false =>
      obtain ⟨answer, next⟩ := sendCall_alike same (Call.exec_unpriced same now)
      obtain ⟨answers, last⟩ := ih next later
      have taken : withoutPrices ((t, msgSender, call) :: rest) =
          (t, msgSender, call) :: withoutPrices rest := by
        simp [withoutPrices, sets]
      have first : ((t, msgSender, call), (pool'.sendCall (t, msgSender, call)).1) =
          ((t, msgSender, call), (pool.sendCall (t, msgSender, call)).1) := by rw [answer]
      have kept : (pool.sendAll ((t, msgSender, call) :: rest)).1.filter
            (fun answer => !answer.1.2.2.setsPrice) =
          ((t, msgSender, call), (pool.sendCall (t, msgSender, call)).1) ::
            ((pool.sendCall (t, msgSender, call)).2.sendAll rest).1.filter
              (fun answer => !answer.1.2.2.setsPrice) := by
        simp [LendingPool.sendAll, sets]
      rw [taken, kept]
      exact ⟨congrArg₂ List.cons first answers, last⟩

/-- Who owes nothing needs no prices: whatever is deposited, repaid, swapped, rebalanced, approved,
listed and configured, withdrawn or given up as collateral where it backs no debt, and transferred
by accounts without a bit, goes through or fails in the same way from any other prices, without a
price being set, and leaves everything but the prices the same. -/
theorem debtless_need_no_prices {calls : List TimedCall} (unpriced : pool.SendsUnpriced calls)
    (prices : Address → Nat) :
    (LendingPool.sendAll { pool with priceOracle := prices } (withoutPrices calls)).1 =
        (pool.sendAll calls).1.filter (fun answer => !answer.1.2.2.setsPrice) ∧
      (pool.sendAll calls).2.SameButPrices
        (LendingPool.sendAll { pool with priceOracle := prices } (withoutPrices calls)).2 :=
  LendingPool.SameButPrices.sendAll (.mk prices) unpriced

def debtlessMarket : LendingPool :=
  Market.endState (Market.setup 1000 ++
    [(1, Market.bob, .deposit Market.weth (10 ^ 20) Market.bob)])

/-- The price of weth falls to zero, and bob withdraws. -/
def debtlessCalls : List TimedCall :=
  [(5, Market.poolAddress, .setAssetPrice Market.weth 0),
    (5, Market.bob, .withdraw Market.weth (10 ^ 19) Market.bob)]

theorem debtlessMarket_needs_no_prices :
    (LendingPool.sendAll { debtlessMarket with priceOracle := fun _ => 7 }
          (withoutPrices debtlessCalls)).1 =
        (debtlessMarket.sendAll debtlessCalls).1.filter (fun answer => !answer.1.2.2.setsPrice) ∧
      (debtlessMarket.sendAll debtlessCalls).2.SameButPrices
        (LendingPool.sendAll { debtlessMarket with priceOracle := fun _ => 7 }
          (withoutPrices debtlessCalls)).2 := by
  have exempt : Exempt (debtlessMarket.sendCall
      (5, Market.poolAddress, .setAssetPrice Market.weth 0)).2 Market.weth Market.bob :=
    .inl (by decide +kernel)
  have unpriced : debtlessMarket.SendsUnpriced debtlessCalls := ⟨trivial, exempt, trivial⟩
  exact debtless_need_no_prices unpriced fun _ => 7

end ElectroLend
