import ElectroLend.Pool.Visits
import ElectroLend.Pool.WellListed

namespace ElectroLend

open Outcome

namespace Reserve

/-- Everything that interest is calculated from is as before. -/
structure SameInterest (r r' : Reserve) : Prop where
  elToken : r'.elTokenAddress = r.elTokenAddress
  liquidityIndex : r'.liquidityIndex = r.liquidityIndex
  variableBorrowIndex : r'.variableBorrowIndex = r.variableBorrowIndex
  liquidityRate : r'.currentLiquidityRate = r.currentLiquidityRate
  timestamp : r'.lastUpdateTimestamp = r.lastUpdateTimestamp

theorem SameInterest.refl (r : Reserve) : r.SameInterest r := ⟨rfl, rfl, rfl, rfl, rfl⟩

/-- The ways in which a storage operation at time `t` changes a reserve, as far as its indexes and
its clocks are concerned. -/
inductive Change (t : Nat) (r r' : Reserve) : Prop
  | kept (same : r.SameInterest r')
      (supply : r'.stableDebtToken.totalSupplyTimestamp = r.stableDebtToken.totalSupplyTimestamp)
  | accrued (h : r.updateState t = .ok r')
  | rated (now : r.lastUpdateTimestamp = uint40 t) (market balance added taken : Nat)
      (h : r.updateInterestRates t market balance added taken = .ok r')
  | premium (total amount : Nat) (h : r.cumulateToLiquidityIndex total amount = .ok r')
  | stableDebt (same : r.SameInterest r') (now : r.lastUpdateTimestamp = uint40 t)
      (supply : r'.stableDebtToken.totalSupplyTimestamp = uint40 t)
  | listed (new : r.elTokenAddress = 0) (liquidityIndex : r'.liquidityIndex = RAY)
      (variableBorrowIndex : r'.variableBorrowIndex = RAY)
      (timestamp : r'.lastUpdateTimestamp = r.lastUpdateTimestamp)
      (supply : r'.stableDebtToken.totalSupplyTimestamp = 0)

theorem Change.refl (t : Nat) (r : Reserve) : r.Change t r := .kept (.refl r) rfl

end Reserve

namespace LendingPool

variable {pool pool' : LendingPool} {t : Nat} {asset : Address} {events : List Event}

theorem change_setReserve {r : Reserve} (h : (pool.reserves asset).Change t r) (a : Address) :
    (pool.reserves a).Change t ((pool.setReserve asset r).reserves a) :=
  setReserve_forall (P := fun a => (pool.reserves a).Change t) h (fun _ => .refl t _) a

theorem listReserve_reserves {input : InitReserveInput} (h : pool.listReserve input = .ok pool') :
    (pool.reserves input.underlyingAsset).elTokenAddress = 0 ∧ ∃ id configuration,
      pool'.reserves = Function.update pool.reserves input.underlyingAsset
        { pool.freshReserve input with id, configuration } := by
  obtain ⟨_, _, _, new, added, configuration, hadd, rfl⟩ := listReserve_eq_ok h
  refine ⟨new, ?_⟩
  obtain ⟨_, ⟨_, _, rfl⟩ | ⟨_, rfl⟩⟩ := addReserveToList_eq_ok hadd
  · exact ⟨(pool.freshReserve input).id, configuration, by simp [setConfiguration, setReserve]⟩
  · exact ⟨uint8 pool.reservesCount, configuration, by simp [setConfiguration, setReserve]⟩

theorem listReserve_change {input : InitReserveInput} (h : pool.listReserve input = .ok pool')
    (a : Address) : (pool.reserves a).Change t (pool'.reserves a) := by
  obtain ⟨new, id, configuration, hreserves⟩ := listReserve_reserves h
  have ray : uint128 RAY = RAY := uint128_of_le (by decide)
  rw [hreserves]
  by_cases ha : a = input.underlyingAsset
  · subst ha
    rw [Function.update_self]
    exact .listed new ray ray rfl rfl
  · rw [Function.update_of_ne ha]
    exact .refl t _

theorem Write.change (h : Write t events pool pool') (a : Address) :
    (pool.reserves a).Change t (pool'.reserves a) := by
  cases h with
  | updateState h =>
    obtain ⟨r, hr, rfl⟩ := updateState_eq_ok h
    exact change_setReserve (.accrued hr) a
  | updateInterestRates accrued h =>
    obtain ⟨r, hr, rfl⟩ := updateInterestRates_eq_ok h
    exact change_setReserve (.rated accrued _ _ _ _ hr) a
  | cumulateToLiquidityIndex h =>
    simp only [LendingPool.cumulateToLiquidityIndex, bind_eq_ok, pure_eq_ok] at h
    obtain ⟨r, hr, rfl⟩ := h
    exact change_setReserve (.premium _ _ hr) a
  | setUsingAsCollateral _ h =>
    obtain ⟨_, _, rfl⟩ := setUsingAsCollateral_eq_ok h
    exact .refl t _
  | setBorrowing _ h =>
    obtain ⟨_, _, rfl⟩ := setBorrowing_eq_ok h
    exact .refl t _
  | setToken _ asset token => exact .refl t _
  | setELToken _ =>
    refine change_setReserve ?_ a
    exact .kept ⟨rfl, rfl, rfl, rfl, rfl⟩ rfl
  | mintVariableDebt h =>
    obtain ⟨_, _, rfl⟩ := mintVariableDebt_eq_ok h
    refine change_setReserve ?_ a
    exact .kept ⟨rfl, rfl, rfl, rfl, rfl⟩ rfl
  | burnVariableDebt h =>
    obtain ⟨_, _, rfl⟩ := burnVariableDebt_eq_ok h
    refine change_setReserve ?_ a
    exact .kept ⟨rfl, rfl, rfl, rfl, rfl⟩ rfl
  | mintStableDebt accrued h =>
    obtain ⟨token, hmint, rfl⟩ := mintStableDebt_eq_ok h
    obtain ⟨_, _, _, _, _, _, _, _, _, _, _, _, _, _, _, supply⟩ := StableDebtToken.mint_eq_ok hmint
    refine change_setReserve ?_ a
    exact .stableDebt ⟨rfl, rfl, rfl, rfl, rfl⟩ accrued supply
  | burnStableDebt accrued h =>
    obtain ⟨token, hburn, rfl⟩ := burnStableDebt_eq_ok h
    obtain ⟨_, _, _, _, _, _, _, _, _, supply⟩ := StableDebtToken.burn_eq_ok hburn
    refine change_setReserve ?_ a
    exact .stableDebt ⟨rfl, rfl, rfl, rfl, rfl⟩ accrued supply
  | approveStableDelegation _ msgSender asset delegatee amount =>
    refine change_setReserve ?_ a
    exact .kept ⟨rfl, rfl, rfl, rfl, rfl⟩ rfl
  | approveVariableDelegation _ msgSender asset delegatee amount =>
    refine change_setReserve ?_ a
    exact .kept ⟨rfl, rfl, rfl, rfl, rfl⟩ rfl
  | listReserve h => exact listReserve_change h a
  | setConfiguration _ asset configuration =>
    refine change_setReserve ?_ a
    exact .kept ⟨rfl, rfl, rfl, rfl, rfl⟩ rfl
  | setReserveInterestRateStrategy _ asset strategy =>
    refine change_setReserve ?_ a
    exact .kept ⟨rfl, rfl, rfl, rfl, rfl⟩ rfl
  | setWorld _ paused priceOracle lendingRateOracle => exact .refl t _

end LendingPool

end ElectroLend
