import ElectroLend.Pool.DebtTokens
import ElectroLend.Properties.AccountDebt

namespace ElectroLend

open Outcome LendingPool

section Exchange

-- A debt of `debt` units of worth `v` each, with a bonus, against a collateral of `balance` units of
-- worth `u` each.
variable {u v debt balance bonus : Nat}

/-- The collateral given for the whole debt is worth no more than the debt with its bonus. -/
theorem collateral_worth_le (v debt u bonus : Nat) :
    PERCENTAGE_FACTOR * (halfUp (v * debt * bonus) PERCENTAGE_FACTOR / u * u) ≤
      v * debt * bonus + HALF_PERCENT := by
  have floor := Nat.div_mul_le_self (halfUp (v * debt * bonus) PERCENTAGE_FACTOR) u
  have worth := HalfUp.mul_le (v * debt * bonus) PERCENTAGE_FACTOR
  exact (Nat.mul_le_mul_left PERCENTAGE_FACTOR floor).trans worth

theorem balance_worth_lt (h : balance < halfUp (v * debt * bonus) PERCENTAGE_FACTOR / u) :
    PERCENTAGE_FACTOR * (balance * u) < v * debt * bonus := by
  have hu : 0 < u := by
    by_contra hz
    rw [Nat.eq_zero_of_not_pos hz, Nat.div_zero] at h
    exact Nat.not_lt_zero _ h
  have most := collateral_worth_le v debt u bonus
  have more : (balance + 1) * u ≤ halfUp (v * debt * bonus) PERCENTAGE_FACTOR / u * u :=
    Nat.mul_le_mul_right u h
  rw [Nat.add_mul, Nat.one_mul] at more
  unfold HALF_PERCENT PERCENTAGE_FACTOR at *
  omega

theorem needed_le (hbonus : 0 < bonus)
    (h : balance < halfUp (v * debt * bonus) PERCENTAGE_FACTOR / u) :
    halfUp (balance * u / v * PERCENTAGE_FACTOR) bonus ≤ debt := by
  have worth := balance_worth_lt h
  have hv : 0 < v := by
    by_contra hz
    rw [Nat.eq_zero_of_not_pos hz, Nat.zero_mul, Nat.zero_mul] at worth
    exact Nat.not_lt_zero _ worth
  have floor := Nat.div_mul_le_self (balance * u) v
  refine HalfUp.le_of_le_mul (Nat.le_of_mul_le_mul_left ?_ hv) hbonus
  calc v * (balance * u / v * PERCENTAGE_FACTOR)
      = PERCENTAGE_FACTOR * (balance * u / v * v) := by ring
    _ ≤ PERCENTAGE_FACTOR * (balance * u) := Nat.mul_le_mul_left _ floor
    _ ≤ v * debt * bonus := worth.le
    _ = v * (debt * bonus) := Nat.mul_assoc v debt bonus

theorem balance_worth_le (hv : 0 < v) (hbonus : PERCENTAGE_FACTOR ≤ bonus) (balance u : Nat) :
    PERCENTAGE_FACTOR * (balance * u) ≤
      v * (halfUp (balance * u / v * PERCENTAGE_FACTOR) bonus + 2) * bonus := by
  have hpos : 0 < bonus := Nat.lt_of_lt_of_le (by decide) hbonus
  have floor := Nat.lt_mul_div_succ (balance * u) hv
  have rounded := HalfUp.lt_mul_succ (balance * u / v * PERCENTAGE_FACTOR) hpos
  generalize balance * u / v = quotient at floor rounded ⊢
  generalize halfUp (quotient * PERCENTAGE_FACTOR) bonus = needed at rounded ⊢
  have units : PERCENTAGE_FACTOR * (quotient + 1) ≤ (needed + 2) * bonus := by
    rw [Nat.mul_add] at rounded
    rw [Nat.add_mul, Nat.mul_comm needed bonus, Nat.mul_add, Nat.mul_comm _ quotient]
    omega
  calc PERCENTAGE_FACTOR * (balance * u)
      ≤ PERCENTAGE_FACTOR * (v * (quotient + 1)) := Nat.mul_le_mul_left _ floor.le
    _ = v * (PERCENTAGE_FACTOR * (quotient + 1)) := by ring
    _ ≤ v * ((needed + 2) * bonus) := Nat.mul_le_mul_left v units
    _ = v * (needed + 2) * bonus := (Nat.mul_assoc v _ bonus).symm

theorem collateral_worth_le_two (hbonus : PERCENTAGE_FACTOR ≤ bonus) (v debt u : Nat) :
    PERCENTAGE_FACTOR * (halfUp (v * debt * bonus) PERCENTAGE_FACTOR / u * u) ≤
      v * (debt + 2) * bonus := by
  obtain rfl | hv := Nat.eq_zero_or_pos v
  · simp
  · have most := collateral_worth_le v debt u bonus
    have extra : 2 * bonus ≤ v * (2 * bonus) := Nat.le_mul_of_pos_left _ hv
    have split : v * (debt + 2) * bonus = v * debt * bonus + v * (2 * bonus) := by ring
    unfold HALF_PERCENT PERCENTAGE_FACTOR at *
    omega

end Exchange

theorem tokenUnit_eq {decimals : Nat} (h : 10 ^ decimals ≤ uint256Max) :
    tokenUnit decimals = 10 ^ decimals := by
  refine Nat.mod_eq_of_lt ?_
  unfold uint256Max at h
  omega

namespace LendingPool

variable {pool pool' : LendingPool} {t : Nat} {collateralAsset debtAsset u : Address}

/-- Both branches of the exchange, with the worth of one unit of either asset. -/
theorem calculateAvailableCollateralToLiquidate_eq_ok {debtToCover balance collateral needed : Nat}
    (h : pool.calculateAvailableCollateralToLiquidate collateralAsset debtAsset debtToCover balance =
      .ok (collateral, needed)) :
    let params := (pool.reserves collateralAsset).configuration.getParams
    let u := pool.priceOracle collateralAsset *
      tokenUnit (pool.reserves debtAsset).configuration.getDecimals
    let v := pool.priceOracle debtAsset * tokenUnit params.decimals
    let most := halfUp (v * debtToCover * params.liquidationBonus) PERCENTAGE_FACTOR / u
    (balance < most ∧ collateral = balance ∧ 0 < v ∧
        needed = halfUp (balance * u / v * PERCENTAGE_FACTOR) params.liquidationBonus) ∨
      (most ≤ balance ∧ collateral = most ∧ needed = debtToCover) := by
  intro params u v most
  simp only [calculateAvailableCollateralToLiquidate, debtNeededForCollateral, bind_eq_ok,
    ite_eq_ok, pure_eq_ok, Except.ok.injEq, Prod.mk.injEq, SafeMath.mul_eq_ok, SafeMath.div_eq_ok,
    percentMul_eq_ok, percentDiv_eq_ok] at h
  obtain ⟨_, ⟨_, rfl⟩, _, ⟨_, rfl⟩, _, ⟨_, rfl⟩, _, ⟨_, rfl⟩, _, ⟨_, rfl⟩, h⟩ := h
  have debts : pool.priceOracle debtAsset * debtToCover * tokenUnit params.decimals =
      v * debtToCover := Nat.mul_right_comm _ _ _
  rw [debts] at h
  obtain ⟨hlt, _, ⟨_, rfl⟩, _, ⟨_, rfl⟩, _, ⟨_, rfl⟩, _, ⟨hv, rfl⟩, _, ⟨_, rfl⟩, rfl, rfl⟩ |
    ⟨hle, rfl, rfl⟩ := h
  · refine .inl ⟨hlt, rfl, hv, ?_⟩
    rw [Nat.mul_right_comm, Nat.mul_comm _ balance]
  · exact .inr ⟨Nat.le_of_not_lt hle, rfl, rfl⟩

/-- A liquidation burns no more than the close factor and the liquidator allow, and of each debt no
more than there is. -/
theorem liquidationCall_burns_le {msgSender : Address} {debtToCover : Nat} {receiveLToken : Bool}
    (h : pool.liquidationCall t msgSender collateralAsset debtAsset u debtToCover receiveLToken =
      .ok pool') :
    ∃ stable variableDebt half burnedStable burnedVariable,
      (pool.reserves debtAsset).stableDebtBalanceOf t u = .ok stable ∧
      (pool.reserves debtAsset).variableDebtBalanceOf t u = .ok variableDebt ∧
      percentMul (stable + variableDebt) LIQUIDATION_CLOSE_FACTOR_PERCENT = .ok half ∧
      BurnsDebt t debtAsset u burnedStable burnedVariable pool pool' ∧
      burnedStable + burnedVariable ≤ half ∧ burnedStable + burnedVariable ≤ debtToCover ∧
      burnedVariable ≤ variableDebt ∧ burnedStable ≤ stable := by
  obtain ⟨stable, variableDebt, half, _, _, needed, hs, hv, hhalf, _, _, _, burns⟩ :=
    liquidationCall_burns h
  rw [debtToLiquidate_eq_min] at burns
  have hall : half ≤ stable + variableDebt := percentMul_le (by decide) hhalf
  refine ⟨stable, variableDebt, half, _, _, hs, hv, hhalf, burns, ?_⟩
  omega

end LendingPool

/-- The collateral of a liquidation is worth no more than the debt it is exchanged for and two units
of it, with the bonus; and no more debt is burned than the close factor and the liquidator allow. -/
theorem liquidation_within_bonus (pool : LendingPool) (collateralAsset debtAsset : Address)
    {bonus collateralDecimals debtDecimals : Nat}
    (hparams : (pool.reserves collateralAsset).configuration.getParams.liquidationBonus = bonus ∧
      (pool.reserves collateralAsset).configuration.getParams.decimals = collateralDecimals ∧
      (pool.reserves debtAsset).configuration.getDecimals = debtDecimals)
    (hbonus : 10000 < bonus)
    (hunits : 10 ^ collateralDecimals ≤ uint256Max ∧ 10 ^ debtDecimals ≤ uint256Max) :
    (∀ debtToCover balance collateral needed,
      pool.calculateAvailableCollateralToLiquidate collateralAsset debtAsset debtToCover balance =
          .ok (collateral, needed) →
        collateral ≤ balance ∧ needed ≤ debtToCover ∧
          10000 * collateral * pool.priceOracle collateralAsset * 10 ^ debtDecimals ≤
            pool.priceOracle debtAsset * (needed + 2) * 10 ^ collateralDecimals * bonus) ∧
    ∀ t msgSender u debtToCover receiveLToken pool',
      pool.liquidationCall t msgSender collateralAsset debtAsset u debtToCover receiveLToken =
          .ok pool' →
        ∃ stable variableDebt half burnedStable burnedVariable,
          (pool.reserves debtAsset).stableDebtBalanceOf t u = .ok stable ∧
          (pool.reserves debtAsset).variableDebtBalanceOf t u = .ok variableDebt ∧
          percentMul (stable + variableDebt) 5000 = .ok half ∧
          BurnsDebt t debtAsset u burnedStable burnedVariable pool pool' ∧
          burnedStable + burnedVariable ≤ half ∧ burnedStable + burnedVariable ≤ debtToCover ∧
          burnedVariable ≤ variableDebt ∧ burnedStable ≤ stable := by
  obtain ⟨rfl, rfl, rfl⟩ := hparams
  obtain ⟨hcd, hdd⟩ := hunits
  have hbonus' : PERCENTAGE_FACTOR ≤
      (pool.reserves collateralAsset).configuration.getParams.liquidationBonus := hbonus.le
  refine ⟨?_, fun _ _ _ _ _ _ h => liquidationCall_burns_le h⟩
  intro debtToCover balance collateral needed h
  have exchange := calculateAvailableCollateralToLiquidate_eq_ok h
  dsimp only at exchange
  rw [tokenUnit_eq hcd, tokenUnit_eq hdd] at exchange
  -- the claim multiplies the worth of the units out
  rw [show 10000 * collateral * pool.priceOracle collateralAsset *
      10 ^ (pool.reserves debtAsset).configuration.getDecimals =
      PERCENTAGE_FACTOR * (collateral * (pool.priceOracle collateralAsset *
        10 ^ (pool.reserves debtAsset).configuration.getDecimals)) by
    unfold PERCENTAGE_FACTOR; ring,
    Nat.mul_right_comm (pool.priceOracle debtAsset)]
  obtain ⟨hlt, rfl, hv, rfl⟩ | ⟨hle, rfl, rfl⟩ := exchange
  · exact ⟨Nat.le_refl _, needed_le (by omega) hlt, balance_worth_le hv hbonus' _ _⟩
  · exact ⟨hle, Nat.le_refl _, collateral_worth_le_two hbonus' _ _ _⟩

/-- The loan of bob after the price of what he borrowed has doubled. -/
def dearMarket : LendingPool :=
  { borrowedMarket with
    priceOracle := fun asset => if asset = Market.weth then 2 * 10 ^ 18 else 10 ^ 18 }

/-- Alice covers a fifth of the debt, and gets the bonus of one twentieth. -/
theorem alice_liquidates_within_bonus :
    (∃ collateral needed,
      dearMarket.calculateAvailableCollateralToLiquidate Market.dai Market.weth (10 ^ 19) (10 ^ 20) =
        .ok (collateral, needed) ∧
      collateral ≤ 10 ^ 20 ∧ needed ≤ 10 ^ 19 ∧
      10000 * collateral * 10 ^ 18 * 10 ^ 18 ≤
        2 * 10 ^ 18 * (needed + 2) * 10 ^ 18 * 10500) ∧
    ∃ pool' stable variableDebt half burnedStable burnedVariable,
      dearMarket.liquidationCall 3 Market.alice Market.dai Market.weth Market.bob (10 ^ 19) true =
        .ok pool' ∧
      percentMul (stable + variableDebt) 5000 = .ok half ∧
      BurnsDebt 3 Market.weth Market.bob burnedStable burnedVariable dearMarket pool' ∧
      burnedStable + burnedVariable ≤ 10 ^ 19 := by
  have hparams : (dearMarket.reserves Market.dai).configuration.getParams.liquidationBonus = 10500 ∧
      (dearMarket.reserves Market.dai).configuration.getParams.decimals = 18 ∧
      (dearMarket.reserves Market.weth).configuration.getDecimals = 18 := by decide +kernel
  obtain ⟨exchange, burns⟩ :=
    liquidation_within_bonus dearMarket Market.dai Market.weth hparams (by omega) (by decide)
  have exchanges : (dearMarket.calculateAvailableCollateralToLiquidate Market.dai Market.weth
      (10 ^ 19) (10 ^ 20)).isOk = true := by decide +kernel
  have success : (dearMarket.liquidationCall 3 Market.alice Market.dai Market.weth Market.bob
      (10 ^ 19) true).isOk = true := by decide +kernel
  obtain ⟨⟨collateral, needed⟩, havailable⟩ := exists_of_isOk exchanges
  obtain ⟨pool', hcall⟩ := exists_of_isOk success
  obtain ⟨stable, variableDebt, half, burnedStable, burnedVariable, _, _, hhalf, hburns, _, hcover,
    _⟩ := burns _ _ _ _ _ _ hcall
  exact ⟨⟨collateral, needed, havailable, exchange _ _ _ _ havailable⟩, pool', stable, variableDebt,
    half, burnedStable, burnedVariable, hcall, hhalf, hburns, hcover⟩

end ElectroLend
