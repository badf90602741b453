import ElectroLend.Properties.FullRepayment

namespace ElectroLend

open Outcome LendingPool

/-- Nearest units: an amount buys `s` of them when it is at most half an index short. -/
theorem le_units_iff {s amount index : Nat} (hi : RAY ≤ index) :
    s ≤ halfUp (amount * RAY) index ↔ s * index ≤ amount * RAY + index / 2 :=
  Nat.le_div_iff_mul_le (Nat.lt_of_lt_of_le RAY_pos hi)

/-- The smaller of two amounts buys as many units as both of them do. -/
theorem le_units_min_iff {s a b index : Nat} :
    s ≤ halfUp (min a b * RAY) index ↔
      s ≤ halfUp (a * RAY) index ∧ s ≤ halfUp (b * RAY) index := by
  have mono : ∀ {x y : Nat}, x ≤ y → halfUp (x * RAY) index ≤ halfUp (y * RAY) index :=
    fun h => HalfUp.mono (Nat.mul_le_mul_right RAY h)
  obtain h | h := Nat.le_total a b
  · have := mono h
    rw [Nat.min_eq_left h]
    omega
  · have := mono h
    rw [Nat.min_eq_right h]
    omega

/-- The amount is worth the whole scaled debt of `u` at the index of the next accrual, up to half an
index. -/
def Reserve.RoundsToAll (r : Reserve) (t : Nat) (u : Address) (amount : Nat) : Prop :=
  ∃ index, r.nextVariableBorrowIndex t = .ok index ∧
    r.variableDebtToken.scaledBalanceOf u * index ≤ amount * RAY + index / 2

theorem Reserve.roundsToAll_iff {r : Reserve} {t amount index : Nat} {u : Address}
    (hi : RAY ≤ index) (hnext : r.nextVariableBorrowIndex t = .ok index) :
    r.RoundsToAll t u amount ↔
      r.variableDebtToken.balances u ≤ halfUp (amount * RAY) index := by
  rw [le_units_iff hi]
  constructor
  · rintro ⟨index', hnext', h⟩
    cases ok_unique hnext hnext'
    exact h
  · intro h
    exact ⟨index, hnext, h⟩

namespace LendingPool

variable {pool pool' : LendingPool} {t amount paid rateMode debtToCover : Nat}
  {asset msgSender u collateralAsset : Address} {receiveLToken : Bool}

/-- A repayment of less than the variable debt, the only debt of `u`, that is rounded to all of it. -/
structure RepaysRounded (pool : LendingPool) (t : Nat) (asset u : Address) (amount rateMode : Nat) :
    Prop where
  mode : InterestRateMode.fromNat rateMode = .ok .variable
  principal : (pool.reserves asset).stableDebtToken.principalBalanceOf u = 0
  short : ∃ debt, (pool.reserves asset).variableDebtBalanceOf t u = .ok debt ∧ amount < debt
  rounds : (pool.reserves asset).RoundsToAll t u amount

/-- The debt of `u` is a single unit at the stable rate, or none at the stable rate and no more at
the variable rate than the debt to cover, half of it and what his collateral is worth, each rounded
to all of it. -/
def LiquidatesAll (pool : LendingPool) (t : Nat) (collateralAsset asset u : Address)
    (debtToCover : Nat) : Prop :=
  ∃ stable variableDebt half balance collateral needed,
    (pool.reserves asset).stableDebtBalanceOf t u = .ok stable ∧
    (pool.reserves asset).variableDebtBalanceOf t u = .ok variableDebt ∧
    percentMul (stable + variableDebt) LIQUIDATION_CLOSE_FACTOR_PERCENT = .ok half ∧
    (pool.reserves collateralAsset).elTokenBalanceOf u = .ok balance ∧
    pool.calculateAvailableCollateralToLiquidate collateralAsset asset
      (debtToLiquidate debtToCover half) balance = .ok (collateral, needed) ∧
    ((stable = 1 ∧ variableDebt = 0) ∨
      (stable = 0 ∧ (pool.reserves asset).RoundsToAll t u debtToCover ∧
        (pool.reserves asset).RoundsToAll t u half ∧
        (pool.reserves asset).RoundsToAll t u needed))

/-- A repayment that leaves no debt clears the bit, but for one that is rounded to all of it. -/
theorem repay_clears_iff (inv : pool.DebtsMarked)
    (h : pool.repay t msgSender asset amount rateMode u = .ok (paid, pool')) :
    (¬(pool'.reserves asset).Owes u →
        (pool'.usersConfig u).borrowingBit (pool.reserves asset).id = false) ↔
      ¬pool.RepaysRounded t asset u amount rateMode := by
  obtain ⟨mode, hmode, stable, variableDebt, hs, hv, hburn, hbits⟩ := repay_repays h
  have hi := inv.index_ge (Reserve.variableDebtBalanceOf_listed hv)
  have hbit := hbits u (pool.reserves asset).id
  have view := Reserve.stableDebtBalanceOf_view hs
  have zero := Reserve.variableDebtBalanceOf_eq_zero_iff hi hv
  obtain ⟨rfl, _, burns⟩ | ⟨rfl, hpaid, burns⟩ := hburn
  · -- a repayment at the stable rate subtracts exactly
    have other : ¬pool.RepaysRounded t asset u amount rateMode := by
      intro rounded
      cases ok_unique hmode rounded.mode
    refine ⟨fun _ => other, fun _ emptied => ?_⟩
    obtain ⟨index, _, tokens⟩ := burns.burns
    obtain ⟨whole, none⟩ := (tokens.emptied_iff view).mp emptied
    rw [Nat.zero_mul, HalfUp.zero_left] at none
    have hz : variableDebt = 0 := zero.mpr (by omega)
    rw [hbit, if_pos ⟨rfl, rfl, by omega⟩]
  · obtain ⟨index, hnext, tokens⟩ := burns.burns
    have emptied := tokens.emptied_iff view
    by_cases hall : variableDebt ≤ amount
    · rw [Nat.min_eq_right hall] at hpaid
      subst hpaid
      constructor
      · rintro _ ⟨_, _, ⟨debt, hdebt, hshort⟩, _⟩
        cases ok_unique hv hdebt
        omega
      · intro _ hleft
        obtain ⟨hz, _⟩ := emptied.mp hleft
        rw [hbit, if_pos ⟨rfl, rfl, by omega⟩]
    · rw [Nat.min_eq_left (by omega)] at hpaid
      subst hpaid
      have owes : (pool.reserves asset).Owes u := variableDebtBalanceOf_owes hv (by omega)
      have kept : (pool'.usersConfig u).borrowingBit (pool.reserves asset).id = true := by
        rw [hbit, if_neg (by omega)]
        exact (inv.debts asset u owes).2
      have principal := Reserve.stableDebtBalanceOf_eq_zero_iff hs
      have rounds := @Reserve.roundsToAll_iff (pool.reserves asset) t paid index u
        (hi.trans (Reserve.le_nextVariableBorrowIndex hnext)) hnext
      rw [kept, emptied, principal, ← rounds]
      constructor
      · intro clears rounded
        exact absurd (clears ⟨rounded.principal, rounded.rounds⟩) (by decide)
      · intro other left
        exact absurd ⟨hmode, left.1, ⟨variableDebt, hv, by omega⟩, left.2⟩ other

/-- Half of a debt is all of it only for a debt of one unit. -/
theorem closeFactor_le {debt half : Nat}
    (h : percentMul debt LIQUIDATION_CLOSE_FACTOR_PERCENT = .ok half) : 2 * half ≤ debt + 1 := by
  obtain ⟨_, rfl⟩ := percentMul_eq_ok.mp h
  have := HalfUp.mul_le (debt * LIQUIDATION_CLOSE_FACTOR_PERCENT) PERCENTAGE_FACTOR
  unfold LIQUIDATION_CLOSE_FACTOR_PERCENT PERCENTAGE_FACTOR at *
  omega

/-- A liquidation that leaves no debt never clears the bit. -/
theorem liquidationCall_clears_iff (inv : pool.DebtsMarked)
    (h : pool.liquidationCall t msgSender collateralAsset asset u debtToCover receiveLToken =
      .ok pool') :
    (¬(pool'.reserves asset).Owes u →
        (pool'.usersConfig u).borrowingBit (pool.reserves asset).id = false) ↔
      ¬pool.LiquidatesAll t collateralAsset asset u debtToCover := by
  obtain ⟨stable, variableDebt, half, balance, collateral, needed, hs, hv, hhalf, hbalance,
    havailable, hne, burns⟩ := liquidationCall_burns h
  have hi := inv.index_ge (Reserve.variableDebtBalanceOf_listed hv)
  have view := Reserve.stableDebtBalanceOf_view hs
  have zero := Reserve.variableDebtBalanceOf_eq_zero_iff hi hv
  obtain ⟨index, hnext, tokens⟩ := burns.burns
  have owes : (pool.reserves asset).Owes u := by
    obtain ⟨hle, _⟩ := tokens.stable_left view
    by_cases hpos : variableDebt = 0
    · exact stableDebtBalanceOf_owes hs (by omega)
    · exact variableDebtBalanceOf_owes hv hpos
  have kept : (pool'.usersConfig u).borrowingBit (pool.reserves asset).id = true := by
    rw [(liquidationCall_debtFrame h).bits]
    exact (inv.debts asset u owes).2
  have emptied := tokens.emptied_iff view
  have rounds := fun amount => @Reserve.roundsToAll_iff (pool.reserves asset) t amount index u
    (hi.trans (Reserve.le_nextVariableBorrowIndex hnext)) hnext
  have hclose := closeFactor_le hhalf
  rw [debtToLiquidate_eq_min] at hne emptied
  rw [kept, emptied]
  constructor
  · rintro clears ⟨stable', variableDebt', half', balance', collateral', needed', hs', hv', hhalf',
      hbalance', havailable', hall⟩
    cases ok_unique hs hs'
    cases ok_unique hv hv'
    cases ok_unique hhalf hhalf'
    cases ok_unique hbalance hbalance'
    cases ok_unique havailable havailable'
    suffices gone : stable = min (min debtToCover half) needed - variableDebt ∧
        (pool.reserves asset).variableDebtToken.balances u ≤
          halfUp (min (min (min debtToCover half) needed) variableDebt * RAY) index from
      absurd (clears gone) (by decide)
    obtain ⟨rfl, rfl⟩ | ⟨rfl, hcover, hhalf, hneeded⟩ := hall
    · refine ⟨by omega, ?_⟩
      rw [zero.mp rfl]
      exact Nat.zero_le _
    · have small : min (min debtToCover half) needed ≤ variableDebt := by omega
      rw [Nat.min_eq_left small, le_units_min_iff, le_units_min_iff, ← rounds, ← rounds, ← rounds]
      exact ⟨by omega, ⟨hcover, hhalf⟩, hneeded⟩
  · rintro other ⟨hstable, hscaled⟩
    refine absurd ⟨stable, variableDebt, half, balance, collateral, needed, hs, hv, hhalf, hbalance,
      havailable, ?_⟩ other
    by_cases hz : stable = 0
    · have small : min (min debtToCover half) needed ≤ variableDebt := by omega
      rw [Nat.min_eq_left small, le_units_min_iff, le_units_min_iff, ← rounds, ← rounds,
        ← rounds] at hscaled
      exact .inr ⟨hz, hscaled.1.1, hscaled.1.2, hscaled.2⟩
    · exact .inl (by omega)

end LendingPool

/-- In every visited state: a repayment or a liquidation that leaves no debt clears the borrowing
bit, but for a repayment that is rounded to the whole debt and a liquidation of all of it. -/
theorem empty_debt_clears_bit_iff {rules : Rules} {t : Nat} {pool : LendingPool}
    (visited : Visited rules t pool) (asset u : Address) :
    (∀ msgSender amount rateMode paid pool',
      pool.repay t msgSender asset amount rateMode u = .ok (paid, pool') →
        ((¬(pool'.reserves asset).Owes u →
            (pool'.usersConfig u).borrowingBit (pool.reserves asset).id = false) ↔
          ¬pool.RepaysRounded t asset u amount rateMode)) ∧
    ∀ msgSender collateralAsset debtToCover receiveLToken pool',
      pool.liquidationCall t msgSender collateralAsset asset u debtToCover receiveLToken =
          .ok pool' →
        ((¬(pool'.reserves asset).Owes u →
            (pool'.usersConfig u).borrowingBit (pool.reserves asset).id = false) ↔
          ¬pool.LiquidatesAll t collateralAsset asset u debtToCover) :=
  ⟨fun _ _ _ _ _ h => repay_clears_iff visited.marked h,
    fun _ _ _ _ _ h => liquidationCall_clears_iff visited.marked h⟩

/-- After twenty years of interest carol borrows one unit, and owes two. -/
def dustMarket : LendingPool :=
  Market.endState (Market.setup 1000 ++
    [(1, Market.alice, .deposit Market.weth (10 ^ 20) Market.alice),
      (2, Market.bob, .deposit Market.dai (10 ^ 20) Market.bob),
      (3, Market.bob, .borrow Market.weth (5 * 10 ^ 19) 2 Market.bob),
      (630720003, Market.carol, .deposit Market.dai (10 ^ 20) Market.carol),
      (630720003, Market.carol, .borrow Market.weth 1 2 Market.carol)])

theorem dustMarket_reachable : Reachable .any 630720003 dustMarket :=
  Market.endState_reachable (by decide +kernel) (by decide +kernel)

/-- Repaying both clears the bit. -/
theorem dustMarket_two_repaid :
    ∃ pool', dustMarket.repay 630720003 Market.carol Market.weth 2 2 Market.carol =
        .ok (2, pool') ∧
      ¬(pool'.reserves Market.weth).Owes Market.carol ∧
      (pool'.usersConfig Market.carol).borrowingBit (dustMarket.reserves Market.weth).id =
        false := by
  have ht : IsBlockTimestamp 630720003 := by unfold IsBlockTimestamp; omega
  have visited : Visited .any 630720003 dustMarket := dustMarket_reachable.visited ht
  have success : succeedsWith
      (dustMarket.repay 630720003 Market.carol Market.weth 2 2 Market.carol) (fun run =>
        decide (run.1 = 2 ∧
          (run.2.reserves Market.weth).stableDebtToken.balances Market.carol = 0 ∧
          (run.2.reserves Market.weth).variableDebtToken.balances Market.carol = 0)) = true := by
    decide +kernel
  obtain ⟨⟨paid, pool'⟩, hrepay, hafter⟩ := succeedsWith_iff.mp success
  obtain ⟨rfl, hs, hv⟩ := of_decide_eq_true hafter
  have empty : ¬(pool'.reserves Market.weth).Owes Market.carol := by
    rintro (hne | hne)
    · exact hne hs
    · exact hne hv
  have whole : ¬dustMarket.RepaysRounded 630720003 Market.weth Market.carol 2 2 := by
    rintro ⟨_, _, ⟨debt, hdebt, hshort⟩, _⟩
    have two : (dustMarket.reserves Market.weth).variableDebtBalanceOf 630720003 Market.carol =
        .ok 2 := by decide +kernel
    cases ok_unique two hdebt
    omega
  have clears := (empty_debt_clears_bit_iff visited Market.weth Market.carol).1 _ _ _ _ _ hrepay
  exact ⟨pool', hrepay, empty, clears.mpr whole empty⟩

/-- Repaying one of them leaves no debt, and the bit. -/
theorem dustMarket_one_repaid :
    Reachable .any 630720003 dustMarket ∧
      ∃ pool', dustMarket.repay 630720003 Market.carol Market.weth 1 2 Market.carol =
          .ok (1, pool') ∧
        (pool'.reserves Market.weth).stableDebtToken.principalBalanceOf Market.carol = 0 ∧
        (pool'.reserves Market.weth).variableDebtToken.scaledBalanceOf Market.carol = 0 ∧
        (pool'.usersConfig Market.carol).borrowingBit (dustMarket.reserves Market.weth).id =
          true := by
  have success : succeedsWith
      (dustMarket.repay 630720003 Market.carol Market.weth 1 2 Market.carol) (fun run =>
        decide (run.1 = 1 ∧
          (run.2.reserves Market.weth).stableDebtToken.principalBalanceOf Market.carol = 0 ∧
          (run.2.reserves Market.weth).variableDebtToken.scaledBalanceOf Market.carol = 0 ∧
          (run.2.usersConfig Market.carol).borrowingBit (dustMarket.reserves Market.weth).id =
            true)) = true := by
    decide +kernel
  obtain ⟨⟨paid, pool'⟩, hrepay, hafter⟩ := succeedsWith_iff.mp success
  obtain ⟨rfl, hleft⟩ := of_decide_eq_true hafter
  exact ⟨dustMarket_reachable, pool', hrepay, hleft⟩

end ElectroLend
