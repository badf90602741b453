import ElectroLend.Pool.AccountSums
import ElectroLend.Pool.Configurator
import ElectroLend.Pool.HealthFactor
import ElectroLend.Properties.AccountDebt
import Mathlib.Algebra.BigOperators.Field
import Mathlib.Algebra.Order.Field.Rat
import Mathlib.Tactic.FieldSimp
import Mathlib.Tactic.Positivity

namespace ElectroLend

open Outcome

namespace LendingPool

/-- The collateral that is left of the positions, once each has paid its liquidation bonus, covers
the debt. -/
def CoversBonus (pool : LendingPool) (user : Address) (debt : Nat) : Prop :=
  (debt : ℚ) ≤ ∑ i ∈ Finset.range pool.reservesCount,
      (pool.collateralAt user (pool.usersConfig user) i : ℚ) * 10000 /
        (pool.paramsAt i).liquidationBonus +
    1 + debt / 10 ^ 18

variable {pool pool' : LendingPool} {t : Nat} {user asset : Address} {account : UserAccountData}

/-- A threshold whose exact product with the bonus is within the whole weighs a position no higher
than what the bonus leaves of it. -/
theorem weighted_le_without_bonus {c threshold bonus : Nat} (hb : 0 < bonus)
    (hp : threshold * bonus ≤ 10 ^ 8) :
    ((c * threshold : Nat) : ℚ) / 10000 ≤ (c : ℚ) * 10000 / bonus := by
  have hbonus : (0 : ℚ) < bonus := by exact_mod_cast hb
  have hproduct : (threshold * bonus : ℚ) ≤ 10 ^ 8 := by exact_mod_cast hp
  have hc : (0 : ℚ) ≤ c := Nat.cast_nonneg c
  rw [div_le_div_iff₀ (by norm_num) hbonus]
  push_cast
  calc (c : ℚ) * threshold * bonus = c * (threshold * bonus) := by ring
    _ ≤ c * 10 ^ 8 := mul_le_mul_of_nonneg_left hproduct hc
    _ = c * 10000 * 10000 := by ring

/-- Exact products within the whole make every healthy portfolio cover its bonuses. -/
theorem covers_of_products
    (bonus : ∀ i, i < pool.reservesCount → (pool.paramsAt i).liquidationThreshold ≠ 0 →
      0 < (pool.paramsAt i).liquidationBonus)
    (products : ∀ i, i < pool.reservesCount →
      (pool.paramsAt i).liquidationThreshold * (pool.paramsAt i).liquidationBonus ≤ 10 ^ 8)
    (hdata : pool.calculateUserAccountData t user (pool.usersConfig user) = .ok account)
    (hge : HEALTH_FACTOR_LIQUIDATION_THRESHOLD ≤ account.healthFactor) :
    pool.CoversBonus user account.totalDebtInETH := by
  obtain ⟨_, _, hc, _, _, hthreshold, hhealth⟩ := calculateUserAccountData_eq_ok hdata
  have covers := health_covers hhealth hge
  have average := Nat.mul_div_le (pool.weightedThreshold user (pool.usersConfig user))
    (pool.totalCollateral user (pool.usersConfig user))
  rw [← hthreshold, ← hc] at average
  have weighted : ((pool.weightedThreshold user (pool.usersConfig user) : Nat) : ℚ) / 10000 ≤
      ∑ i ∈ Finset.range pool.reservesCount,
        (pool.collateralAt user (pool.usersConfig user) i : ℚ) * 10000 /
          (pool.paramsAt i).liquidationBonus := by
    unfold weightedThreshold
    push_cast
    rw [Finset.sum_div]
    refine Finset.sum_le_sum fun i hi => ?_
    have hi := Finset.mem_range.mp hi
    by_cases hz : (pool.paramsAt i).liquidationThreshold = 0
    · have none : pool.collateralAt user (pool.usersConfig user) i = 0 :=
        if_neg fun counts => counts.1 hz
      simp [none]
    · have each := weighted_le_without_bonus
        (c := pool.collateralAt user (pool.usersConfig user) i) (bonus i hi hz) (products i hi)
      push_cast at each
      exact each
  have covered : 2 * (10 ^ 4 * 10 ^ 18 * account.totalDebtInETH) ≤
      2 * 10 ^ 18 * pool.weightedThreshold user (pool.usersConfig user) + 10 ^ 4 * 10 ^ 18 +
        10 ^ 4 * account.totalDebtInETH := by
    unfold WAD at covers
    omega
  have exact : (2 * (10 ^ 4 * 10 ^ 18 * account.totalDebtInETH) : ℚ) ≤
      2 * 10 ^ 18 * (pool.weightedThreshold user (pool.usersConfig user) : Nat) +
        10 ^ 4 * 10 ^ 18 + 10 ^ 4 * account.totalDebtInETH := by exact_mod_cast covered
  have hd : (0 : ℚ) ≤ account.totalDebtInETH := Nat.cast_nonneg _
  unfold CoversBonus
  linarith

/-- One reserve of one price, in which everybody holds `collateral` and owes `debt` at the stable
rate. -/
def oneReserve (config : ReserveConfigurationMap) (collateral debt : Nat) : LendingPool :=
  { LendingPool.initialized 0 (fun _ => ⟨fun _ => 0, fun _ _ => 0⟩) (fun _ => 1) (fun _ => 0)
      (fun _ => true) with
    reserves := fun _ => { Reserve.unlisted with
      configuration := config
      elTokenAddress := 1
      stableDebtTokenAddress := 2
      variableDebtTokenAddress := 3
      elToken := ⟨⟨fun _ => collateral, collateral⟩, fun _ _ => 0, 0⟩
      stableDebtToken := { StableDebtToken.empty with
        balances := fun _ => debt
        totalSupply := debt } }
    usersConfig := fun _ => ⟨3⟩
    reservesCount := 1 }

theorem oneReserve_stableDebt {config : ReserveConfigurationMap} {collateral debt : Nat}
    (hd : debt ≤ 10 ^ 20) (asset user : Address) :
    ((oneReserve config collateral debt).reserves asset).stableDebtBalanceOf 0 user = .ok debt := by
  have scaled : rayMul debt RAY = .ok debt := by
    refine rayMul_eq_ok.mpr ⟨?_, HalfUp.mul_self_left debt RAY_pos⟩
    have fits : 10 ^ 20 * RAY + halfRAY ≤ uint256Max := by decide
    have := Nat.mul_le_mul_right RAY hd
    omega
  refine bind_eq_ok.mpr ⟨(), rfl, ?_⟩
  change (if debt = 0 then Except.ok 0 else
    calculateCompoundedInterest 0 0 0 >>= fun interest => rayMul debt interest) = .ok debt
  rw [calculateCompoundedInterest_self, ok_bind, scaled]
  split
  next hz => rw [hz]
  next => rfl

theorem oneReserve_addCollateral {config : ReserveConfigurationMap} {collateral : Nat} (debt : Nat)
    (hdecimals : config.getParams.decimals = 0) (hlt : config.getParams.liquidationThreshold ≠ 0)
    (hc : collateral ≤ 10 ^ 20) (hltv : config.getParams.ltv ≤ 10 ^ 4)
    (hthreshold : config.getParams.liquidationThreshold ≤ 10 ^ 4) (user : Address) :
    (oneReserve config collateral debt).addCollateral user ⟨3⟩ 0 ⟨0, 0, 0, 0⟩ =
      .ok ⟨collateral, 0, collateral * config.getParams.ltv,
        collateral * config.getParams.liquidationThreshold⟩ := by
  have wide : 10 ^ 24 ≤ uint256Max := by decide
  have hl : collateral * config.getParams.ltv ≤ 10 ^ 20 * 10 ^ 4 := Nat.mul_le_mul hc hltv
  have ht : collateral * config.getParams.liquidationThreshold ≤ 10 ^ 20 * 10 ^ 4 :=
    Nat.mul_le_mul hc hthreshold
  have unit : 0 < tokenUnit config.getParams.decimals := by
    rw [hdecimals]
    decide
  have value : 1 * collateral / tokenUnit config.getParams.decimals = collateral := by
    rw [hdecimals]
    exact (Nat.div_one _).trans (Nat.one_mul _)
  have fits : 1 * collateral ≤ uint256Max ∧ 0 + collateral ≤ uint256Max := by omega
  have fitsLtv : collateral * config.getParams.ltv ≤ uint256Max ∧
      0 + collateral * config.getParams.ltv ≤ uint256Max := by omega
  have fitsThreshold : collateral * config.getParams.liquidationThreshold ≤ uint256Max ∧
      0 + collateral * config.getParams.liquidationThreshold ≤ uint256Max := by omega
  simp only [addCollateral, Reserve.elTokenBalanceOf, bind_eq_ok,
    UserConfigurationMap.isUsingAsCollateral_eq_ok, ite_eq_ok, SafeMath.mul_eq_ok,
    SafeMath.add_eq_ok, SafeMath.div_eq_ok, pure_eq_ok]
  refine ⟨true, ⟨by decide, by decide⟩, .inl ⟨⟨hlt, rfl⟩, collateral, ⟨(), rfl, rfl⟩, 1 * collateral,
    ⟨fits.1, rfl⟩, collateral, ⟨unit, value⟩, 0 + collateral, ⟨fits.2, rfl⟩,
    collateral * config.getParams.ltv, ⟨fitsLtv.1, rfl⟩, 0 + collateral * config.getParams.ltv,
    ⟨fitsLtv.2, rfl⟩, collateral * config.getParams.liquidationThreshold, ⟨fitsThreshold.1, rfl⟩,
    0 + collateral * config.getParams.liquidationThreshold, ⟨fitsThreshold.2, rfl⟩, ?_⟩⟩
  simp only [Nat.zero_add]

theorem oneReserve_addDebt {config : ReserveConfigurationMap} {debt : Nat} (collateral : Nat)
    (hdecimals : config.getParams.decimals = 0) (hd : debt ≤ 10 ^ 20) (user : Address)
    (vars : AccountTotals) (hz : vars.totalDebtInETH = 0) :
    (oneReserve config collateral debt).addDebt 0 user ⟨3⟩ 0 vars =
      .ok { vars with totalDebtInETH := debt } := by
  have wide : 10 ^ 24 ≤ uint256Max := by decide
  have unit : 0 < tokenUnit config.getParams.decimals := by
    rw [hdecimals]
    decide
  have value : 1 * (debt + 0) / tokenUnit config.getParams.decimals = debt := by
    rw [hdecimals, Nat.add_zero]
    exact (Nat.div_one _).trans (Nat.one_mul _)
  have fits : 1 * (debt + 0) ≤ uint256Max ∧ debt + 0 ≤ uint256Max ∧
      vars.totalDebtInETH + debt ≤ uint256Max := by omega
  simp only [addDebt, bind_eq_ok, UserConfigurationMap.isBorrowing_eq_ok, ite_eq_ok,
    SafeMath.mul_eq_ok, SafeMath.add_eq_ok, SafeMath.div_eq_ok, pure_eq_ok,
    oneReserve_stableDebt hd]
  refine ⟨true, ⟨by decide, by decide⟩, .inl ⟨rfl, debt, rfl, 0, rfl, debt + 0, ⟨fits.2.1, rfl⟩,
    1 * (debt + 0), ⟨fits.1, rfl⟩, debt, ⟨unit, value⟩, vars.totalDebtInETH + debt,
    ⟨fits.2.2, rfl⟩, ?_⟩⟩
  simp only [hz, Nat.zero_add]

theorem oneReserve_account {config : ReserveConfigurationMap} {collateral debt health : Nat}
    (hdecimals : config.getParams.decimals = 0) (hlt : config.getParams.liquidationThreshold ≠ 0)
    (hc : collateral ≤ 10 ^ 20) (hd : debt ≤ 10 ^ 20) (hltv : config.getParams.ltv ≤ 10 ^ 4)
    (hthreshold : config.getParams.liquidationThreshold ≤ 10 ^ 4) (hpos : 0 < collateral)
    (user : Address)
    (hhealth : calculateHealthFactorFromBalances collateral debt
      config.getParams.liquidationThreshold = .ok health) :
    (oneReserve config collateral debt).calculateUserAccountData 0 user ⟨3⟩ =
      .ok ⟨collateral, debt, config.getParams.ltv, config.getParams.liquidationThreshold,
        health⟩ := by
  have active : (⟨3⟩ : UserConfigurationMap).isUsingAsCollateralOrBorrowing 0 = .ok true := by
    decide +kernel
  have turn : (oneReserve config collateral debt).addReserve 0 user ⟨3⟩ ⟨0, 0, 0, 0⟩ 0 =
      .ok ⟨collateral, debt, collateral * config.getParams.ltv,
        collateral * config.getParams.liquidationThreshold⟩ := by
    rw [addReserve, active, ok_bind, if_pos rfl,
      oneReserve_addCollateral debt hdecimals hlt hc hltv hthreshold user, ok_bind,
      oneReserve_addDebt collateral hdecimals hd user _ rfl]
  have average : ∀ n, averageOverCollateral (collateral * n) collateral = .ok n := by
    intro n
    rw [averageOverCollateral, if_pos hpos]
    exact SafeMath.div_eq_ok.mpr ⟨hpos, Nat.mul_div_cancel_left n hpos⟩
  have loop : (List.range (oneReserve config collateral debt).reservesCount).foldlM
      ((oneReserve config collateral debt).addReserve 0 user ⟨3⟩) ⟨0, 0, 0, 0⟩ =
      .ok ⟨collateral, debt, collateral * config.getParams.ltv,
        collateral * config.getParams.liquidationThreshold⟩ := by
    change (List.range 1).foldlM _ _ = _
    rw [List.range_one, List.foldlM_cons, turn, ok_bind]
    rfl
  rw [calculateUserAccountData, if_neg (by decide), loop, ok_bind, average, ok_bind, average,
    ok_bind, hhealth]
  rfl

/-- A debt of what the threshold leaves of the collateral is on the edge of a liquidation. -/
theorem edge_healthFactor {threshold : Nat} (hpos : 0 < threshold) (hsmall : threshold ≤ 10 ^ 4) :
    calculateHealthFactorFromBalances (10 ^ 10) (10 ^ 6 * threshold) threshold = .ok WAD := by
  have wide : 10 ^ 15 ≤ uint256Max := by decide
  have half : HALF_PERCENT ≤ 10 ^ 4 := by decide
  have share : 10 ^ 10 * threshold = 10 ^ 6 * threshold * PERCENTAGE_FACTOR := by
    rw [Nat.mul_right_comm]
    rfl
  have room : 10 ^ 20 ≤ (uint256Max - 10 ^ 20) / WAD := by decide
  have less : (uint256Max - 10 ^ 20) / WAD ≤
      (uint256Max - 10 ^ 6 * threshold / 2) / WAD := Nat.div_le_div_right (by omega)
  rw [calculateHealthFactorFromBalances, if_neg (by omega)]
  refine bind_eq_ok.mpr ⟨10 ^ 6 * threshold, percentMul_eq_ok.mpr ⟨by omega, ?_⟩,
    wadDiv_eq_ok.mpr ⟨⟨by omega, by omega⟩, ?_⟩⟩
  · rw [share]
    exact HalfUp.mul_self_left _ (by decide)
  · rw [Nat.mul_comm]
    exact HalfUp.mul_self_left _ (by omega)

theorem edge_not_covered {threshold bonus : Nat} (hb : bonus ≤ MAX_VALID_LIQUIDATION_BONUS)
    (hproduct : 10 ^ 8 < threshold * bonus) :
    ¬((10 ^ 6 * threshold : Nat) : ℚ) ≤ ((10 ^ 10 : Nat) : ℚ) * 10000 / bonus + 1 +
      ((10 ^ 6 * threshold : Nat) : ℚ) / 10 ^ 18 := by
  intro covers
  push_cast at covers
  have above : (10 ^ 8 + 1 : ℚ) ≤ threshold * bonus := by exact_mod_cast hproduct
  have most : (bonus : ℚ) ≤ 65535 := by exact_mod_cast hb
  have bonusPos : (0 : ℚ) < bonus := by
    have hne : bonus ≠ 0 := by
      rintro rfl
      omega
    exact_mod_cast Nat.pos_of_ne_zero hne
  have whole : (10000000000 * 10000 / bonus : ℚ) * bonus = 10 ^ 14 := by
    rw [div_mul_cancel₀ _ bonusPos.ne']
    norm_num
  have scaled := mul_le_mul_of_nonneg_right covers bonusPos.le
  rw [add_mul, add_mul, whole] at scaled
  linarith

/-- A product above the whole that is let through leaves the portfolio on the edge uncovered. -/
theorem oneReserve_uncovered {config : ReserveConfigurationMap} {threshold bonus : Nat}
    (hdecimals : config.getParams.decimals = 0)
    (hthreshold : config.getParams.liquidationThreshold = threshold)
    (hbonus : config.getParams.liquidationBonus = bonus) (hltv : config.getParams.ltv ≤ 10 ^ 4)
    (hsmall : threshold ≤ 10 ^ 4) (hb : bonus ≤ MAX_VALID_LIQUIDATION_BONUS)
    (hproduct : 10 ^ 8 < threshold * bonus) (user : Address) :
    ∃ account, (oneReserve config (10 ^ 10) (10 ^ 6 * threshold)).calculateUserAccountData 0 user
        ⟨3⟩ = .ok account ∧
      0 < account.totalDebtInETH ∧
      HEALTH_FACTOR_LIQUIDATION_THRESHOLD ≤ account.healthFactor ∧
      ¬(oneReserve config (10 ^ 10) (10 ^ 6 * threshold)).CoversBonus user
        account.totalDebtInETH := by
  have hpos : 0 < threshold := by
    obtain rfl | hpos := Nat.eq_zero_or_pos threshold
    · omega
    · exact hpos
  have hhealth : calculateHealthFactorFromBalances (10 ^ 10) (10 ^ 6 * threshold)
      config.getParams.liquidationThreshold = .ok WAD := by
    rw [hthreshold]
    exact edge_healthFactor hpos hsmall
  have hdata := oneReserve_account hdecimals (by omega) (by decide) (by omega) hltv
    (by omega) (by decide) user hhealth
  refine ⟨_, hdata, by dsimp only; omega, Nat.le_refl _, ?_⟩
  obtain ⟨_, _, hc, _⟩ := calculateUserAccountData_eq_ok hdata
  have position : (oneReserve config (10 ^ 10) (10 ^ 6 * threshold)).collateralAt user ⟨3⟩ 0 =
      10 ^ 10 := by
    refine Eq.trans ?_ hc.symm
    exact (Finset.sum_range_one _).symm
  have params : (oneReserve config (10 ^ 10) (10 ^ 6 * threshold)).paramsAt 0 =
      config.getParams := rfl
  intro covers
  change (_ : ℚ) ≤ ∑ i ∈ Finset.range 1, _ + 1 + _ at covers
  rw [Finset.sum_range_one] at covers
  change ((10 ^ 6 * threshold : Nat) : ℚ) ≤
    ((oneReserve config (10 ^ 10) (10 ^ 6 * threshold)).collateralAt user ⟨3⟩ 0 : ℚ) * 10000 /
      ((oneReserve config (10 ^ 10) (10 ^ 6 * threshold)).paramsAt 0).liquidationBonus + 1 +
        ((10 ^ 6 * threshold : Nat) : ℚ) / 10 ^ 18 at covers
  rw [position, params, hbonus] at covers
  exact edge_not_covered hb hproduct covers

theorem configureReserveAsCollateral_le {ltv threshold bonus : Nat}
    (h : pool.configureReserveAsCollateral asset ltv threshold bonus = .ok pool') :
    ltv ≤ MAX_VALID_LTV ∧ threshold ≤ MAX_VALID_LIQUIDATION_THRESHOLD ∧
      bonus ≤ MAX_VALID_LIQUIDATION_BONUS := by
  simp only [configureReserveAsCollateral, updateConfiguration, ReserveConfigurationMap.setLtv,
    ReserveConfigurationMap.setLiquidationThreshold, ReserveConfigurationMap.setLiquidationBonus,
    bind_eq_ok, require_eq_ok, pure_eq_ok] at h
  obtain ⟨_, _, _, ⟨_, ⟨_, hl, _⟩, _, ⟨_, ht, _⟩, _, hb, _⟩, _⟩ := h
  exact ⟨hl, ht, hb⟩

end LendingPool

open LendingPool

/-- A set of collateral configurations, all of them accepted, guarantees that healthy portfolios
cover their debt with the bonuses exactly when every product of threshold and bonus is within the
whole before it is rounded. -/
theorem bonus_guarantee_iff {allowed : Nat → Nat → Nat → Prop}
    (accepted : ∀ ltv threshold bonus, allowed ltv threshold bonus →
      ∃ (pool : LendingPool) (asset : Address) (pool' : LendingPool),
        pool.configureReserveAsCollateral asset ltv threshold bonus = .ok pool') :
    (∀ (pool : LendingPool) (t : Nat) (user : Address) (account : UserAccountData),
        (∀ i, i < pool.reservesCount → allowed (pool.paramsAt i).ltv
          (pool.paramsAt i).liquidationThreshold (pool.paramsAt i).liquidationBonus) →
        pool.calculateUserAccountData t user (pool.usersConfig user) = .ok account →
        0 < account.totalDebtInETH →
        HEALTH_FACTOR_LIQUIDATION_THRESHOLD ≤ account.healthFactor →
        pool.CoversBonus user account.totalDebtInETH) ↔
      ∀ ltv threshold bonus, allowed ltv threshold bonus → threshold * bonus ≤ 10 ^ 8 := by
  constructor
  · intro guarantee ltv threshold bonus hallowed
    by_contra hproduct
    obtain ⟨_, _, _, hconfigure⟩ := accepted ltv threshold bonus hallowed
    obtain ⟨hl, ht, hb⟩ := configureReserveAsCollateral_le hconfigure
    obtain ⟨hle, hcheck, _⟩ := configureReserveAsCollateral_eq_ok hconfigure
    obtain ⟨_, hbonus, hrounded⟩ | ⟨hz, _⟩ := hcheck
    · have hlt := threshold_lt_of_product hbonus hrounded
      unfold PERCENTAGE_FACTOR at hlt
      obtain ⟨config, rfl, rfl, rfl, hdecimals⟩ :=
        ReserveConfigurationMap.exists_params hl ht hb
      obtain ⟨account, hdata, hpos, hge, uncovered⟩ :=
        oneReserve_uncovered hdecimals rfl rfl (by omega) (by omega) hb (by omega) 0
      exact uncovered (guarantee _ 0 0 account (fun _ _ => hallowed) hdata hpos hge)
    · subst hz
      omega
  · intro products pool t user account hallowed hdata _ hge
    refine covers_of_products ?_ (fun i hi => products _ _ _ (hallowed i hi)) hdata hge
    intro i hi hne
    obtain ⟨_, _, _, hconfigure⟩ := accepted _ _ _ (hallowed i hi)
    obtain ⟨_, ⟨_, hbonus, _⟩ | ⟨hz, _⟩, _⟩ := configureReserveAsCollateral_eq_ok hconfigure
    · omega
    · exact absurd hz hne

/-- Bob borrows against weth whose threshold and bonus multiply to a little more than the whole;
then dai rises until his health factor is exactly one. -/
def tightMarket : LendingPool :=
  Market.endState (Market.setup 1000 ++
    [(0, Market.poolAddress,
        .setConfiguration Market.weth (Market.collateralConfiguration 9000 9523 10501)),
      (1, Market.alice, .deposit Market.dai (10 ^ 20) Market.alice),
      (2, Market.bob, .deposit Market.weth (10 ^ 20) Market.bob),
      (3, Market.bob, .borrow Market.dai (8 * 10 ^ 19) 2 Market.bob),
      (3, Market.poolAddress, .setAssetPrice Market.dai 1190375000000000000)])

/-- The configurations are accepted and the health factor is one, but the weth without its bonus
does not cover the debt. -/
theorem tightMarket_uncovered :
    Reachable .any 3 tightMarket ∧
      (∃ pool', Market.genesis.configureReserveAsCollateral Market.weth 9000 9523 10501 =
        .ok pool') ∧
      (∀ i, i < tightMarket.reservesCount →
        (tightMarket.reserves (tightMarket.reservesList i)).configuration.Accepted) ∧
      ∃ account,
        tightMarket.calculateUserAccountData 3 Market.bob (tightMarket.usersConfig Market.bob) =
          .ok account ∧
        0 < account.totalDebtInETH ∧
        HEALTH_FACTOR_LIQUIDATION_THRESHOLD ≤ account.healthFactor ∧
        ¬tightMarket.CoversBonus Market.bob account.totalDebtInETH := by
  refine ⟨Market.endState_reachable (by decide +kernel) (by decide +kernel),
    exists_of_isOk (by decide +kernel), by decide +kernel, ?_⟩
  have success : succeedsWith
      (tightMarket.calculateUserAccountData 3 Market.bob (tightMarket.usersConfig Market.bob))
      (fun account => decide (account.totalDebtInETH = 9523 * 10 ^ 16 ∧
        account.healthFactor = 10 ^ 18)) = true := by decide +kernel
  have values : tightMarket.reservesCount = 2 ∧
      tightMarket.collateralAt Market.bob (tightMarket.usersConfig Market.bob) 0 = 10 ^ 20 ∧
      tightMarket.collateralAt Market.bob (tightMarket.usersConfig Market.bob) 1 = 0 ∧
      (tightMarket.paramsAt 0).liquidationBonus = 10501 := by decide +kernel
  obtain ⟨account, hdata, hnumbers⟩ := succeedsWith_iff.mp success
  simp only [decide_eq_true_eq] at hnumbers
  obtain ⟨hdebt, hhealth⟩ := hnumbers
  obtain ⟨hcount, hfirst, hsecond, hbonus⟩ := values
  refine ⟨account, hdata, by omega, hhealth.ge, ?_⟩
  rw [CoversBonus, hcount, hdebt, Finset.sum_range_succ, Finset.sum_range_one, hfirst, hsecond,
    hbonus]
  norm_num

/-- Bob's healthy position, under a configuration whose threshold and bonus leave room. -/
theorem borrowedMarket_covers_bonus :
    ∃ account, borrowedMarket.calculateUserAccountData 86400 Market.bob
        (borrowedMarket.usersConfig Market.bob) = .ok account ∧ 0 < account.totalDebtInETH ∧
      borrowedMarket.CoversBonus Market.bob account.totalDebtInETH := by
  have configured : (Market.genesis.configureReserveAsCollateral Market.weth 7500 8000
      10500).isOk = true := by decide +kernel
  have healthy : succeedsWith (borrowedMarket.calculateUserAccountData 86400 Market.bob
      (borrowedMarket.usersConfig Market.bob))
      (fun account => decide (0 < account.totalDebtInETH ∧
        HEALTH_FACTOR_LIQUIDATION_THRESHOLD ≤ account.healthFactor)) = true := by decide +kernel
  have params : ∀ i, i < borrowedMarket.reservesCount →
      (borrowedMarket.paramsAt i).ltv = 7500 ∧
        (borrowedMarket.paramsAt i).liquidationThreshold = 8000 ∧
        (borrowedMarket.paramsAt i).liquidationBonus = 10500 := by decide +kernel
  obtain ⟨pool', hconfigure⟩ := exists_of_isOk configured
  obtain ⟨account, hdata, hchecks⟩ := succeedsWith_iff.mp healthy
  obtain ⟨hdebt, hhealth⟩ := of_decide_eq_true hchecks
  have guarantee := (@bonus_guarantee_iff (fun ltv threshold bonus =>
    ltv = 7500 ∧ threshold = 8000 ∧ bonus = 10500) ?_).mpr ?_
  · exact ⟨account, hdata, hdebt, guarantee _ _ _ _ params hdata hdebt hhealth⟩
  · rintro _ _ _ ⟨rfl, rfl, rfl⟩
    exact ⟨Market.genesis, Market.weth, pool', hconfigure⟩
  · rintro _ _ _ ⟨rfl, rfl, rfl⟩
    decide

end ElectroLend
