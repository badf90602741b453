import ElectroLend.Library.Loops
import ElectroLend.Pool.Changes
import ElectroLend.Pool.Configurator
import ElectroLend.Pool.RuledRuns
import ElectroLend.Pool.Scripts
import ElectroLend.Properties.BorrowingBits
import ElectroLend.Views.DataProviders

namespace ElectroLend

open Outcome LendingPool

/-- Whoever has no principal has no rate and no timestamp. -/
def StableDebtToken.Clean (token : StableDebtToken) : Prop :=
  ∀ u, token.balances u = 0 → token.usersStableRate u = 0 ∧ token.timestamps u = 0

variable {token token' : StableDebtToken} {pool pool' : LendingPool} {t amount : Nat}
  {asset u v : Address} {rules : Rules}

theorem StableDebtToken.Clean.mint {rate : Nat} {first : Bool} (clean : token.Clean)
    (nonzero : amount ≠ 0) (h : token.mint t u v amount rate = .ok (first, token')) :
    token'.Clean := by
  obtain ⟨balance, _, newRate, _, _, _, _, _, _, _, hbalances, _, _, htimestamps, hrates, _⟩ :=
    StableDebtToken.mint_eq_ok h
  intro w hw
  rw [hbalances] at hw
  rw [hrates, htimestamps]
  by_cases hv : w = v
  · subst hv
    rw [Function.update_self] at hw
    omega
  · rw [Function.update_of_ne hv] at hw ⊢
    rw [Function.update_of_ne hv]
    exact clean w hw

theorem StableDebtToken.Clean.burn (clean : token.Clean) (h : token.burn t v amount = .ok token') :
    token'.Clean := by
  obtain ⟨balance, _, _, _, _, hle, hbalances, htimestamps, hrates, _⟩ :=
    StableDebtToken.burn_eq_ok h
  intro w hw
  rw [hbalances] at hw
  rw [hrates, htimestamps]
  by_cases hv : w = v
  · subst hv
    rw [Function.update_self] at hw
    have closed : amount = balance := by omega
    rw [if_pos closed, if_pos closed]
    exact ⟨Function.update_self _ _ _, Function.update_self _ _ _⟩
  · rw [Function.update_of_ne hv] at hw
    obtain ⟨rate, timestamp⟩ := clean w hw
    rw [Function.update_of_ne hv]
    refine ⟨?_, timestamp⟩
    split
    · rw [Function.update_of_ne hv]
      exact rate
    · exact rate

def LendingPool.CleanRates (pool : LendingPool) : Prop :=
  ∀ a, (pool.reserves a).stableDebtToken.Clean

theorem LendingPool.CleanRates.setReserve (clean : pool.CleanRates) {r : Reserve}
    (stored : r.stableDebtToken.Clean) : (pool.setReserve asset r).CleanRates :=
  setReserve_forall (P := fun _ r => r.stableDebtToken.Clean) stored clean

theorem Did.cleanRates {deed : Deed} (h : Did t deed pool pool') (clean : pool.CleanRates) :
    pool'.CleanRates := by
  cases h with
  | updateState h =>
    obtain ⟨r, hr, rfl⟩ := updateState_eq_ok h
    obtain ⟨_, _, _, _, _, _, rfl, _⟩ := Reserve.updateState_eq_ok hr
    exact clean.setReserve (clean _)
  | updateInterestRates h =>
    obtain ⟨r, hr, rfl⟩ := updateInterestRates_eq_ok h
    obtain ⟨_, _, rfl⟩ := Reserve.updateInterestRates_eq_ok hr
    exact clean.setReserve (clean _)
  | cumulateToLiquidityIndex h =>
    obtain ⟨_, _, rfl⟩ := cumulateToLiquidityIndex_eq_ok h
    exact clean.setReserve (clean _)
  | mintELToken h =>
    obtain ⟨_, _, rfl⟩ := mintELToken_eq_ok h
    exact clean.setReserve (clean _)
  | @burnELToken _ _ a _ _ _ h =>
    obtain ⟨elToken, _, _, rfl⟩ := burnELToken_eq_ok h
    exact CleanRates.setReserve (r := { pool.reserves a with elToken }) clean (clean a)
  | moveELToken _ => exact clean.setReserve (clean _)
  | spendELToken _ _ _ => exact clean.setReserve (clean _)
  | approveELToken _ => exact clean.setReserve (clean _)
  | lowerELTokenAllowance _ _ => exact clean.setReserve (clean _)
  | mintVariableDebt h =>
    obtain ⟨_, _, rfl⟩ := mintVariableDebt_eq_ok h
    exact clean.setReserve (clean _)
  | mintStableDebt nonzero h =>
    obtain ⟨_, hm, rfl⟩ := mintStableDebt_eq_ok h
    exact clean.setReserve ((clean _).mint nonzero hm)
  | burnVariableDebt h =>
    obtain ⟨_, _, rfl⟩ := burnVariableDebt_eq_ok h
    exact clean.setReserve (clean _)
  | burnStableDebt h =>
    obtain ⟨_, hb, rfl⟩ := burnStableDebt_eq_ok h
    exact clean.setReserve ((clean _).burn hb)
  | @convertStableDebt _ _ _ a _ _ _ _ _ burned minted =>
    obtain ⟨stableDebtToken, hb, rfl⟩ := burnStableDebt_eq_ok burned
    obtain ⟨_, _, rfl⟩ := mintVariableDebt_eq_ok minted
    have after : (pool.setReserve a { pool.reserves a with stableDebtToken }).CleanRates :=
      clean.setReserve ((clean a).burn hb)
    exact after.setReserve (after a)
  | approveStableDelegation _ msgSender a delegatee amount => exact clean.setReserve (clean a)
  | approveVariableDelegation _ msgSender a delegatee amount => exact clean.setReserve (clean a)
  | setUsingAsCollateral h =>
    obtain ⟨_, _, rfl⟩ := setUsingAsCollateral_eq_ok h
    exact clean
  | setBorrowing h =>
    obtain ⟨_, _, rfl⟩ := setBorrowing_eq_ok h
    exact clean
  | pull h =>
    obtain ⟨_, _, rfl⟩ := pullUnderlying_eq_ok h
    exact clean
  | pay h =>
    obtain ⟨_, _, rfl⟩ := transferUnderlyingTo_eq_ok h
    exact clean
  | sendToken _ => exact clean
  | spendToken _ => exact clean
  | approveToken _ => exact clean
  | @listReserve _ _ input h =>
    obtain ⟨_, _, _, hreserves⟩ := listReserve_reserves h
    intro a
    rw [hreserves]
    by_cases ha : a = input.underlyingAsset
    · subst ha
      rw [Function.update_self]
      exact fun _ _ => ⟨rfl, rfl⟩
    · rw [Function.update_of_ne ha]
      exact clean a
  | setConfiguration _ a configuration => exact clean.setReserve (clean a)
  | setReserveInterestRateStrategy _ a strategy => exact clean.setReserve (clean a)
  | setPause _ val => exact clean
  | setPrices _ priceOracle lendingRateOracle => exact clean

theorem cleanRates_invariant : RuledInvariant rules fun _ pool => pool.CleanRates := by
  have step : ∀ (t : Nat) (deed : Deed) (pool pool' : LendingPool), True → Did t deed pool pool' →
      pool.CleanRates → pool'.CleanRates := fun _ _ _ _ _ did => did.cleanRates
  refine .of_deeds step ?_ ?_ ?_
  all_goals intros; trivial

theorem Reachable.cleanRates (h : Reachable rules t pool) : pool.CleanRates :=
  h.invariant (fun _ _ _ _ _ _ _ _ => ⟨rfl, rfl⟩)
    fun _ _ _ timestamp clean run => cleanRates_invariant.steps timestamp run clean

namespace UiPoolDataProviderV2

variable {user : Address} {i : Nat}

/-- The row of the user for the reserve at position `i` of the list, with everything read. -/
def fullRow (pool : LendingPool) (user : Address) (i : Nat) : UserReserveData :=
  let asset := pool.reservesList i
  let reserve := pool.reserves asset
  { underlyingAsset := asset
    scaledLTokenBalance := reserve.elToken.scaledBalanceOf user
    usageAsCollateralEnabledOnUser := (pool.usersConfig user).collateralBit i
    stableBorrowRate := reserve.stableDebtToken.getUserStableRate user
    scaledVariableDebt := reserve.variableDebtToken.scaledBalanceOf user
    principalStableDebt := reserve.stableDebtToken.principalBalanceOf user
    stableBorrowLastUpdateTimestamp := reserve.stableDebtToken.timestamps user }

/-- What is not read for an account without the borrowing bit, or without principal, is zero. -/
theorem userReserveData_eq (marked : pool.DebtsMarked) (clean : pool.CleanRates)
    (hi : i < pool.reservesCount) :
    userReserveData pool user pool.reservesCount i = .ok (fullRow pool user i) := by
  obtain ⟨listed, hid⟩ := marked.listing.listed i hi
  have hcount := marked.listing.count_le
  have hmax := marked.listing.max_eq
  have inWord : i < 128 := by omega
  have collateral : (pool.usersConfig user).isUsingAsCollateral i =
      .ok ((pool.usersConfig user).collateralBit i) :=
    UserConfigurationMap.isUsingAsCollateral_eq_ok.mpr ⟨inWord, rfl⟩
  have borrowing : (pool.usersConfig user).isBorrowing i =
      .ok ((pool.usersConfig user).borrowingBit i) :=
    UserConfigurationMap.isBorrowing_eq_ok.mpr ⟨inWord, rfl⟩
  have reset := clean (pool.reservesList i) user
  simp only [userReserveData, userDebtData, Reserve.elTokenBalanceOf, requireContract,
    require_of hi, require_of listed.elToken, require_of listed.stableDebtToken,
    require_of listed.variableDebtToken, collateral, borrowing, ok_bind]
  cases bit : (pool.usersConfig user).borrowingBit i with
  | false =>
    have debtless : ¬(pool.reserves (pool.reservesList i)).Owes user := by
      intro owes
      obtain ⟨_, hbit⟩ := marked.debts _ user owes
      rw [hid, bit] at hbit
      cases hbit
    obtain ⟨principal, scaled⟩ := not_or.mp debtless
    obtain ⟨rate, timestamp⟩ := reset (not_not.mp principal)
    simp only [fullRow, StableDebtToken.getUserStableRate, StableDebtToken.principalBalanceOf,
      VariableDebtToken.scaledBalanceOf, not_not.mp principal, not_not.mp scaled, rate, timestamp]
    rfl
  | true =>
    by_cases principal : (pool.reserves (pool.reservesList i)).stableDebtToken.balances user = 0
    · obtain ⟨rate, timestamp⟩ := reset principal
      simp only [fullRow, StableDebtToken.getUserStableRate, StableDebtToken.principalBalanceOf,
        principal, rate, timestamp]
      rfl
    · simp only [StableDebtToken.principalBalanceOf, ne_eq, principal, not_false_eq_true, if_true]
      rfl

/-- The row holds what the other provider answers for the same reserve. -/
def rowOf (asset : Address) (data : ElectroProtocolDataProvider.UserReserveData) :
    UserReserveData where
  underlyingAsset := asset
  scaledLTokenBalance := data.currentELTokenBalance
  usageAsCollateralEnabledOnUser := data.usageAsCollateralEnabled
  stableBorrowRate := data.stableBorrowRate
  scaledVariableDebt := data.scaledVariableDebt
  principalStableDebt := data.principalStableDebt
  stableBorrowLastUpdateTimestamp := data.stableRateLastUpdated

theorem fullRow_eq (marked : pool.DebtsMarked) (hi : i < pool.reservesCount)
    {data : ElectroProtocolDataProvider.UserReserveData}
    (hdata : ElectroProtocolDataProvider.getUserReserveData pool t (pool.reservesList i) user =
      .ok data) : fullRow pool user i = rowOf (pool.reservesList i) data := by
  obtain ⟨_, hid⟩ := marked.listing.listed i hi
  simp only [ElectroProtocolDataProvider.getUserReserveData, Reserve.elTokenBalanceOf, bind_eq_ok,
    pure_eq_ok, hid] at hdata
  obtain ⟨_, ⟨_, _, rfl⟩, _, _, _, _, collateral, hcollateral, rfl⟩ := hdata
  obtain ⟨_, rfl⟩ := UserConfigurationMap.isUsingAsCollateral_eq_ok.mp hcollateral
  rfl

/-- In every reachable pool the rows of an account can be read in one call, although that call skips
the debts that the borrowing bits do not show and the rates of closed stable debts: they are what is
read reserve by reserve. For the zero address the call reverts as soon as a reserve is listed. -/
theorem getUserReservesData_agrees (reach : Reachable rules t pool) (user : Address) :
    (user ≠ 0 → ∃ rows, getUserReservesData pool user = .ok rows ∧
      rows.map (·.underlyingAsset) = pool.getReservesList ∧
      ∀ t' i data, i < pool.reservesCount →
        ElectroProtocolDataProvider.getUserReserveData pool t' (pool.reservesList i) user =
          .ok data → rows[i]? = some (rowOf (pool.reservesList i) data)) ∧
    (user = 0 → pool.reservesCount ≠ 0 →
      getUserReservesData pool user = .error .indexOutOfBounds) := by
  have marked := reach.marked
  have clean := reach.cleanRates
  constructor
  · intro hu
    have rows : getUserReservesData pool user =
        .ok ((List.range pool.reservesCount).map (fullRow pool user)) := by
      unfold getUserReservesData
      rw [if_pos hu]
      exact mapM_ok fun i hi => userReserveData_eq marked clean (List.mem_range.mp hi)
    refine ⟨_, rows, ?_, ?_⟩
    · rw [List.map_map]
      rfl
    · intro t' i data hi hdata
      rw [List.getElem?_map, List.getElem?_range hi, Option.map_some, fullRow_eq marked hi hdata]
  · rintro rfl hcount
    obtain ⟨n, hn⟩ := Nat.exists_eq_succ_of_ne_zero hcount
    have first : userReserveData pool 0 0 0 = .error .indexOutOfBounds := rfl
    unfold getUserReservesData
    rw [if_neg (not_not.mpr rfl), hn, List.range_succ_eq_map, List.mapM_cons, first]
    rfl

/-- Bob has borrowed weth against dai. -/
def borrowerMarket : LendingPool :=
  Market.endState (Market.setup 1000 ++
    [(1, Market.alice, .deposit Market.weth (10 ^ 20) Market.alice),
      (2, Market.bob, .deposit Market.dai (10 ^ 20) Market.bob),
      (3, Market.bob, .borrow Market.weth (5 * 10 ^ 19) 2 Market.bob)])

theorem borrowerMarket_getUserReservesData_agrees :
    ∃ rows, getUserReservesData borrowerMarket Market.bob = .ok rows ∧
      rows.map (·.underlyingAsset) = borrowerMarket.getReservesList ∧
      ∀ t' i data, i < borrowerMarket.reservesCount →
        ElectroProtocolDataProvider.getUserReserveData borrowerMarket t'
            (borrowerMarket.reservesList i) Market.bob = .ok data →
          rows[i]? = some (rowOf (borrowerMarket.reservesList i) data) := by
  have reachable : Reachable .any 3 borrowerMarket :=
    Market.endState_reachable (by decide +kernel) (by decide +kernel)
  exact (getUserReservesData_agrees reachable Market.bob).1 (by decide)

/-- The stable debt at `t`, grown at the average rate of the row since the timestamp that goes with it. -/
def AggregatedReserveData.totalStableDebtAt (row : AggregatedReserveData) (t : Nat) : Result Nat :=
  if row.totalPrincipalStableDebt = 0 then .ok 0
  else do
    let cumulatedInterest ← calculateCompoundedInterest row.averageStableRate
      row.stableDebtLastUpdateTimestamp t
    rayMul row.totalPrincipalStableDebt cumulatedInterest

/-- The index of the variable debt at `t`, grown at the variable rate of the row. -/
def AggregatedReserveData.normalizedDebtAt (row : AggregatedReserveData) (t : Nat) : Result Nat :=
  if row.lastUpdateTimestamp = uint40 t then .ok row.variableBorrowIndex
  else do
    let cumulated ← calculateCompoundedInterest row.variableBorrowRate row.lastUpdateTimestamp t
    rayMul cumulated row.variableBorrowIndex

/-- What a reader of the row can tell of the totals at `t`. -/
def AggregatedReserveData.totalsAt (row : AggregatedReserveData) (t : Nat) :
    Result ElectroProtocolDataProvider.ReserveTotals := do
  let totalStableDebt ← row.totalStableDebtAt t
  let normalizedDebt ← row.normalizedDebtAt t
  let totalVariableDebt ← rayMul row.totalScaledVariableDebt normalizedDebt
  pure {
    availableLiquidity := row.availableLiquidity
    totalStableDebt
    totalVariableDebt
    liquidityRate := row.liquidityRate
    variableBorrowRate := row.variableBorrowRate
    stableBorrowRate := row.stableBorrowRate
    averageStableBorrowRate := row.averageStableRate
    liquidityIndex := row.liquidityIndex
    variableBorrowIndex := row.variableBorrowIndex
    lastUpdateTimestamp := row.lastUpdateTimestamp }

/-- What it tells of the configuration. Its own flag of collateral asks for a loan to value, that of
the other provider for a liquidation threshold. -/
def AggregatedReserveData.configurationData (row : AggregatedReserveData) :
    ElectroProtocolDataProvider.ReserveConfigurationData where
  decimals := row.decimals
  ltv := row.baseLTVasCollateral
  liquidationThreshold := row.reserveLiquidationThreshold
  liquidationBonus := row.reserveLiquidationBonus
  reserveFactor := row.reserveFactor
  usageAsCollateralEnabled := row.reserveLiquidationThreshold > 0
  borrowingEnabled := row.borrowingEnabled
  stableBorrowRateEnabled := row.stableBorrowRateEnabled
  isActive := row.isActive
  isFrozen := row.isFrozen

/-- The row holds all that the other provider answers for the asset, now and later. -/
structure AggregatedReserveData.Tells (pool : LendingPool) (asset : Address)
    (row : AggregatedReserveData) : Prop where
  underlyingAsset : row.underlyingAsset = asset
  totals : ∀ later, ElectroProtocolDataProvider.getReserveData pool later asset = row.totalsAt later
  configuration :
    ElectroProtocolDataProvider.getReserveConfigurationData pool asset = row.configurationData
  collateral : row.usageAsCollateralEnabled = true ↔ row.baseLTVasCollateral ≠ 0

theorem aggregatedReserveData_tells {row : AggregatedReserveData}
    (h : aggregatedReserveData pool t asset = .ok row) : row.Tells pool asset := by
  simp only [aggregatedReserveData, StableDebtToken.getSupplyData, requireContract, bind_eq_ok,
    require_eq_ok, pure_eq_ok, Prod.exists, Prod.mk.injEq] at h
  obtain ⟨_, stable, _, _, _, _, ⟨_, _, rfl, rfl, rfl, rfl⟩, _, scaled, rfl⟩ := h
  refine ⟨rfl, fun later => ?_, rfl, decide_eq_true_iff⟩
  simp only [ElectroProtocolDataProvider.getReserveData, requireContract, require_of stable,
    require_of scaled, VariableDebtToken.totalDebt, ok_bind, bind_assoc]
  rfl

end UiPoolDataProviderV2

end ElectroLend
