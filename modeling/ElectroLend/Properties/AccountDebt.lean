import ElectroLend.Lending.StableReads
import ElectroLend.Lending.VariableReads
import ElectroLend.Pool.AccountSums
import ElectroLend.Properties.BorrowingBits
import ElectroLend.Pool.Scripts

namespace ElectroLend

open Outcome LendingPool

namespace LendingPool

variable {pool : LendingPool} {t i : Nat} {user : Address}

theorem reserveDebtInETH_zero {asset : Address} (listed : (pool.reserves asset).Listed)
    (clear : ¬(pool.reserves asset).Owes user) : pool.reserveDebtInETH t user asset = .ok 0 := by
  have hs : (pool.reserves asset).stableDebtToken.balances user = 0 :=
    by_contra fun hne => clear (.inl hne)
  have hv : (pool.reserves asset).variableDebtToken.balances user = 0 :=
    by_contra fun hne => clear (.inr hne)
  have stableZero : (pool.reserves asset).stableDebtBalanceOf t user = .ok 0 := by
    exact Reserve.stableDebtBalanceOf_eq_ok.mpr
      ⟨listed.stableDebtToken, StableDebtToken.balanceOf_zero hs⟩
  have variableZero : (pool.reserves asset).variableDebtBalanceOf t user = .ok 0 := by
    exact Reserve.variableDebtBalanceOf_eq_ok.mpr
      ⟨listed.variableDebtToken, .inl ⟨hv, rfl⟩⟩
  simp [reserveDebtInETH, stableZero, variableZero]

/-- What a position adds to the account is what the user owes there, also when it is skipped. -/
theorem DebtsMarked.debtAt (inv : pool.DebtsMarked) (hi : i < pool.reservesCount) :
    pool.debtAt t user (pool.usersConfig user) i =
      pool.reserveDebtInETH t user (pool.reservesList i) := by
  obtain ⟨listed, hid⟩ := inv.listing.listed i hi
  unfold LendingPool.debtAt
  split
  · rfl
  next hbit =>
    refine (reserveDebtInETH_zero listed fun ho => ?_).symm
    have hset := (inv.debts _ _ ho).2
    rw [hid] at hset
    exact hbit hset

theorem mapM_range_eq_ok {f : Nat → Result Nat} {values : Nat → Nat} {n : Nat}
    (h : ∀ i, i < n → f i = .ok (values i)) :
    (List.range n).mapM f = .ok ((List.range n).map values) := by
  induction n with
  | zero => rfl
  | succ n ih =>
    rw [List.range_succ, List.mapM_append, ih fun i hi => h i (by omega)]
    simp [h n (Nat.lt_succ_self n)]

end LendingPool

/-- In every reachable state, at every time and under every prices: whoever owes something in a
reserve has its borrowing bit set, and the total debt of the account data is what the user owes in
all listed reserves together. -/
theorem totalDebtInETH_covers_every_reserve {pool : LendingPool} {t t' : Nat}
    (h : Reachable .any t pool) (user : Address) (prices : Address → Nat)
    {account : UserAccountData}
    (hdata : { pool with priceOracle := prices }.calculateUserAccountData t' user
      (pool.usersConfig user) = .ok account) :
    (∀ asset, (pool.reserves asset).Owes user →
        (pool.usersConfig user).borrowingBit (pool.reserves asset).id = true) ∧
      ∃ debts, (List.range pool.reservesCount).mapM (fun i =>
          { pool with priceOracle := prices }.reserveDebtInETH t' user (pool.reservesList i)) =
          .ok debts ∧
        account.totalDebtInETH = debts.sum := by
  have inv := h.marked
  refine ⟨fun asset ho => (inv.debts asset user ho).2, ?_⟩
  have inv' : { pool with priceOracle := prices }.DebtsMarked :=
    inv.frame ⟨⟨rfl, rfl, rfl, fun _ => .refl _⟩, fun _ _ h => h, fun _ _ => rfl⟩
  obtain ⟨debts, hdebts, _, hsum, _⟩ := calculateUserAccountData_eq_ok hdata
  have each : ∀ i, i < pool.reservesCount →
      { pool with priceOracle := prices }.reserveDebtInETH t' user (pool.reservesList i) =
        .ok (debts i) := by
    intro i hi
    rw [← hdebts i hi]
    exact (inv'.debtAt hi).symm
  refine ⟨_, mapM_range_eq_ok each, ?_⟩
  rw [hsum]
  rfl

/-- Bob borrows at the variable rate against a deposit of the other asset. -/
def borrowedMarket : LendingPool :=
  Market.endState (Market.setup 1000 ++
    [(1, Market.alice, .deposit Market.weth (10 ^ 20) Market.alice),
      (2, Market.bob, .deposit Market.dai (10 ^ 20) Market.bob),
      (3, Market.bob, .borrow Market.weth (5 * 10 ^ 19) 2 Market.bob)])

theorem borrowedMarket_totalDebt :
    ∃ account debts,
      { borrowedMarket with priceOracle := fun _ => 2 * 10 ^ 18 }.calculateUserAccountData 86400
        Market.bob (borrowedMarket.usersConfig Market.bob) = .ok account ∧
      (List.range borrowedMarket.reservesCount).mapM (fun i =>
        { borrowedMarket with priceOracle := fun _ => 2 * 10 ^ 18 }.reserveDebtInETH 86400
          Market.bob (borrowedMarket.reservesList i)) = .ok debts ∧
      account.totalDebtInETH = debts.sum := by
  have reach : Reachable .any 3 borrowedMarket :=
    Market.endState_reachable (by decide +kernel) (by decide +kernel)
  have success : ({ borrowedMarket with
      priceOracle := fun _ => 2 * 10 ^ 18 }.calculateUserAccountData 86400 Market.bob
        (borrowedMarket.usersConfig Market.bob)).isOk = true := by decide +kernel
  obtain ⟨account, hdata⟩ := exists_of_isOk success
  obtain ⟨_, debts, hdebts, hsum⟩ :=
    totalDebtInETH_covers_every_reserve reach Market.bob (fun _ => 2 * 10 ^ 18) hdata
  exact ⟨account, debts, hdata, hdebts, hsum⟩

end ElectroLend
