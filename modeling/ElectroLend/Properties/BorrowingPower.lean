import ElectroLend.Pool.Scripts

namespace ElectroLend

open Outcome LendingPool

/-- The test of `validateBorrow` on the collateral needed for the debt with the new loan. -/
def validateCollateral (userCollateralBalanceETH userBorrowBalanceETH amountInETH currentLtv : Nat) :
    Result Unit := do
  let needed ← SafeMath.add userBorrowBalanceETH amountInETH
  let amountOfCollateralNeededETH ← percentDiv needed currentLtv
  require (amountOfCollateralNeededETH ≤ userCollateralBalanceETH) .vlCollateralCannotCoverNewBorrow

/-- What `getUserAccountData` advertises. -/
structure AdvertisedAccountData where
  totalCollateralETH : Nat
  totalDebtETH : Nat
  availableBorrowsETH : Nat
  currentLiquidationThreshold : Nat
  ltv : Nat
  healthFactor : Nat
  deriving DecidableEq, Repr

namespace LendingPool

def getUserAccountData (pool : LendingPool) (blockTimestamp : Nat) (user : Address) :
    Result AdvertisedAccountData := do
  let account ← pool.calculateUserAccountData blockTimestamp user (pool.usersConfig user)
  let availableBorrowsETH ← calculateAvailableBorrowsETH account.totalCollateralInETH
    account.totalDebtInETH account.avgLtv
  pure {
    totalCollateralETH := account.totalCollateralInETH
    totalDebtETH := account.totalDebtInETH
    availableBorrowsETH := availableBorrowsETH
    currentLiquidationThreshold := account.avgLiquidationThreshold
    ltv := account.avgLtv
    healthFactor := account.healthFactor }

end LendingPool

variable {collateral debt amount ltv share : Nat}

theorem validateCollateral_eq_ok :
    validateCollateral collateral debt amount ltv = .ok () ↔
      debt + amount ≤ uint256Max ∧ (ltv ≠ 0 ∧
        debt + amount ≤ (uint256Max - ltv / 2) / PERCENTAGE_FACTOR) ∧
        halfUp ((debt + amount) * PERCENTAGE_FACTOR) ltv ≤ collateral := by
  simp only [validateCollateral, bind_eq_ok, SafeMath.add_eq_ok, percentDiv_eq_ok, require_eq_ok]
  constructor
  · rintro ⟨_, ⟨hadd, rfl⟩, _, ⟨hdiv, rfl⟩, hle⟩
    exact ⟨hadd, hdiv, hle⟩
  · rintro ⟨hadd, hdiv, hle⟩
    exact ⟨_, ⟨hadd, rfl⟩, _, ⟨hdiv, rfl⟩, hle⟩

theorem calculateAvailableBorrowsETH_covered (hshare : percentMul collateral ltv = .ok share)
    (covered : debt ≤ share) :
    calculateAvailableBorrowsETH collateral debt ltv = .ok (share - debt) := by
  simp only [calculateAvailableBorrowsETH, hshare, ok_bind, if_neg (Nat.not_lt.mpr covered)]
  exact SafeMath.sub_eq_ok.mpr ⟨covered, rfl⟩

theorem validateCollateral_le (hltv : ltv ≤ PERCENTAGE_FACTOR)
    (hshare : percentMul collateral ltv = .ok share)
    (h : validateCollateral collateral debt amount ltv = .ok ()) : debt + amount ≤ share := by
  obtain ⟨_, ⟨hne, _⟩, hcovers⟩ := validateCollateral_eq_ok.mp h
  obtain ⟨_, rfl⟩ := percentMul_eq_ok.mp hshare
  exact HalfUp.le_mul_of_div_le (Nat.pos_of_ne_zero hne) hltv hcovers

namespace LendingPool

variable {pool : LendingPool} {t : Nat} {asset user : Address}
  {amountInETH mode : Nat} {data : AdvertisedAccountData}

/-- The validation tests the collateral of the account that the view shows. -/
theorem validateBorrow_tests (h : pool.validateBorrow t asset user amount amountInETH mode = .ok ()) :
    ∃ account, pool.calculateUserAccountData t user (pool.usersConfig user) = .ok account ∧
      validateCollateral account.totalCollateralInETH account.totalDebtInETH amountInETH
        account.avgLtv = .ok () := by
  simp only [validateBorrow, bind_eq_ok, require_eq_ok] at h
  obtain ⟨_, _, _, _, _, _, _, _, _, _, account, haccount, _, _, _, _, needed, hadd, required, hdiv,
    _, hle, _⟩ := h
  refine ⟨account, haccount, ?_⟩
  simp only [validateCollateral, bind_eq_ok, require_eq_ok]
  exact ⟨needed, hadd, required, hdiv, hle⟩

theorem validateBorrow_le_available
    (h : pool.validateBorrow t asset user amount amountInETH mode = .ok ())
    (hdata : pool.getUserAccountData t user = .ok data) (hltv : data.ltv ≤ PERCENTAGE_FACTOR) :
    amountInETH ≤ data.availableBorrowsETH := by
  obtain ⟨account, haccount, htest⟩ := validateBorrow_tests h
  simp only [getUserAccountData, bind_eq_ok, pure_eq_ok] at hdata
  obtain ⟨_, haccount', available, havailable, rfl⟩ := hdata
  cases ok_unique haccount haccount'
  obtain ⟨share, hshare, _⟩ := bind_eq_ok.mp havailable
  have hle := validateCollateral_le hltv hshare htest
  cases ok_unique havailable (calculateAvailableBorrowsETH_covered hshare (by omega))
  show amountInETH ≤ share - account.totalDebtInETH
  omega

end LendingPool

/-- For an `ltv` below the whole the collateral test accepts exactly the amounts up to the available
borrows, unless the share of the collateral is rounded up to just the debt with the new loan, by too
much for the rounding of the division. -/
theorem borrowing_power_iff {needed : Nat} (hltv : 1 ≤ ltv ∧ ltv ≤ 9999)
    (hshare : percentMul collateral ltv = .ok share) (covered : debt ≤ share)
    (hneeded : percentDiv (debt + amount) ltv = .ok needed) :
    ∃ available, calculateAvailableBorrowsETH collateral debt ltv = .ok available ∧
      ((validateCollateral collateral debt amount ltv = .ok () ↔ amount ≤ available) ↔
        ¬(debt + amount = collateral * ltv / PERCENTAGE_FACTOR + 1 ∧
          HALF_PERCENT ≤ collateral * ltv % PERCENTAGE_FACTOR ∧
          collateral * ltv % PERCENTAGE_FACTOR + (ltv + 1) / 2 ≤ PERCENTAGE_FACTOR)) := by
  refine ⟨share - debt, calculateAvailableBorrowsETH_covered hshare covered, ?_⟩
  obtain ⟨_, rfl⟩ := percentMul_eq_ok.mp hshare
  obtain ⟨⟨hne, hdiv⟩, _⟩ := percentDiv_eq_ok.mp hneeded
  have whole : PERCENTAGE_FACTOR = 10000 := rfl
  have tested : validateCollateral collateral debt amount ltv = .ok () ↔
      halfUp ((debt + amount) * PERCENTAGE_FACTOR) ltv ≤ collateral := by
    rw [validateCollateral_eq_ok]
    have hadd := hdiv.trans ((Nat.div_le_self _ _).trans (Nat.sub_le _ _))
    exact ⟨fun h => h.2.2, fun h => ⟨hadd, ⟨hne, hdiv⟩, h⟩⟩
  have within : amount ≤ halfUp (collateral * ltv) PERCENTAGE_FACTOR - debt ↔
      debt + amount ≤ halfUp (collateral * ltv) PERCENTAGE_FACTOR := by omega
  have hle : ltv ≤ PERCENTAGE_FACTOR := by omega
  rw [tested, within, HalfUp.div_le_iff_le_mul_iff hltv.1 hle]
  -- the amounts between the two bounds are the next integer above the exact share, if any
  apply not_congr
  have half : HALF_PERCENT = 5000 := rfl
  rw [whole, half]
  omega

/-- Bob's weth has an odd number of units, and three quarters of it are rounded up. -/
def oddMarket : LendingPool :=
  Market.endState (Market.setup 1000 ++
    [(1, Market.alice, .deposit Market.dai (10 ^ 20) Market.alice),
      (2, Market.bob, .deposit Market.weth (10 ^ 18 + 2) Market.bob)])

/-- Bob's available borrows are refused, and one unit less is lent. -/
theorem oddMarket_advertised_refused :
    Reachable .any 2 oddMarket ∧
      (∃ data, oddMarket.getUserAccountData 2 Market.bob = .ok data ∧
        data.availableBorrowsETH = 75 * 10 ^ 16 + 2 ∧
        calculateAvailableBorrowsETH (10 ^ 18 + 2) 0 7500 = .ok data.availableBorrowsETH ∧
        validateCollateral (10 ^ 18 + 2) 0 data.availableBorrowsETH 7500 =
          .error .vlCollateralCannotCoverNewBorrow) ∧
      oddMarket.validateBorrow 2 Market.dai Market.bob (75 * 10 ^ 16 + 2) (75 * 10 ^ 16 + 2) 2 =
        .error .vlCollateralCannotCoverNewBorrow ∧
      oddMarket.validateBorrow 2 Market.dai Market.bob (75 * 10 ^ 16 + 1) (75 * 10 ^ 16 + 1) 2 =
        .ok () := by
  have advertised : succeedsWith (oddMarket.getUserAccountData 2 Market.bob)
      (fun data => decide (data.availableBorrowsETH = 75 * 10 ^ 16 + 2)) = true := by
    decide +kernel
  obtain ⟨data, hdata, havailable⟩ := succeedsWith_iff.mp advertised
  have available := of_decide_eq_true havailable
  refine ⟨Market.endState_reachable (by decide +kernel) (by decide +kernel),
    ⟨data, hdata, available, ?_, ?_⟩, by decide +kernel, by decide +kernel⟩
  · rw [available]
    decide +kernel
  · rw [available]
    decide +kernel

/-- Against a round collateral the two agree. -/
theorem round_collateral_agrees :
    validateCollateral (10 ^ 18) 0 (75 * 10 ^ 16) 7500 = .ok () ∧
      ∃ available, calculateAvailableBorrowsETH (10 ^ 18) 0 7500 = .ok available ∧
        75 * 10 ^ 16 ≤ available := by
  obtain ⟨available, havailable, agree⟩ := @borrowing_power_iff (10 ^ 18) 0 (75 * 10 ^ 16) 7500
    (75 * 10 ^ 16) (10 ^ 18) (by decide) (by decide +kernel) (by decide) (by decide +kernel)
  have accepted : validateCollateral (10 ^ 18) 0 (75 * 10 ^ 16) 7500 = .ok () := by decide +kernel
  exact ⟨accepted, available, havailable, (agree.mpr (by decide +kernel)).mp accepted⟩

end ElectroLend
