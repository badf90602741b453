import ElectroLend.Pool.Holdings
import ElectroLend.Pool.LoanDebts

namespace ElectroLend

open Outcome

namespace LendingPool

/-- Both pools store the same indexes of the asset, at the same time. -/
structure SameIndexes (pool pool' : LendingPool) (asset : Address) : Prop where
  liquidityIndex : (pool'.reserves asset).liquidityIndex = (pool.reserves asset).liquidityIndex
  variableBorrowIndex :
    (pool'.reserves asset).variableBorrowIndex = (pool.reserves asset).variableBorrowIndex
  timestamp :
    (pool'.reserves asset).lastUpdateTimestamp = (pool.reserves asset).lastUpdateTimestamp

variable {pool middle pool' : LendingPool} {t amount added taken : Nat}
  {asset elToken msgSender recipient u v : Address}

theorem SameIndexes.of_reserves (h : pool'.reserves = pool.reserves) (asset : Address) :
    pool.SameIndexes pool' asset := by
  refine ⟨?_, ?_, ?_⟩ <;> rw [h]

theorem SameIndexes.trans {pool'' : LendingPool} (h : pool.SameIndexes pool' asset)
    (h' : pool'.SameIndexes pool'' asset) : pool.SameIndexes pool'' asset where
  liquidityIndex := h'.liquidityIndex.trans h.liquidityIndex
  variableBorrowIndex := h'.variableBorrowIndex.trans h.variableBorrowIndex
  timestamp := h'.timestamp.trans h.timestamp

theorem SameIndexes.setReserve {r : Reserve}
    (hl : r.liquidityIndex = (pool.reserves asset).liquidityIndex)
    (hv : r.variableBorrowIndex = (pool.reserves asset).variableBorrowIndex)
    (ht : r.lastUpdateTimestamp = (pool.reserves asset).lastUpdateTimestamp) :
    pool.SameIndexes (pool.setReserve asset r) asset :=
  ⟨by simpa using hl, by simpa using hv, by simpa using ht⟩

/-- A second update of an asset in one block changes nothing. -/
theorem updateState_again (ht : IsBlockTimestamp t)
    (hlast : (pool.reserves asset).lastUpdateTimestamp = t)
    (h : pool.updateState t asset = .ok pool') : pool' = pool := by
  obtain ⟨r, hr, rfl⟩ := updateState_eq_ok h
  rw [Reserve.updateState_again ht hlast hr, LendingPool.setReserve, Function.update_eq_self]

theorem updateInterestRates_indexes
    (h : pool.updateInterestRates t asset elToken added taken = .ok pool') :
    pool.SameIndexes pool' asset := by
  obtain ⟨r, hr, rfl⟩ := updateInterestRates_eq_ok h
  obtain ⟨rates, _, rfl⟩ := Reserve.updateInterestRates_eq_ok hr
  exact .setReserve rfl rfl rfl

theorem pullUnderlying_indexes (h : pool.pullUnderlying asset u v amount = .ok pool') :
    pool.SameIndexes pool' asset := by
  obtain ⟨token, _, rfl⟩ := pullUnderlying_eq_ok h
  exact ⟨rfl, rfl, rfl⟩

theorem mintELToken_indexes {first : Bool}
    (h : pool.mintELToken asset u amount = .ok (first, pool')) :
    pool.SameIndexes pool' asset := by
  obtain ⟨token, _, rfl⟩ := mintELToken_eq_ok h
  exact .setReserve rfl rfl rfl

theorem burnELToken_indexes (h : pool.burnELToken asset u v amount = .ok pool') :
    pool.SameIndexes pool' asset := by
  obtain ⟨elToken, token, _, rfl⟩ := burnELToken_eq_ok h
  have burned : pool.SameIndexes (pool.setReserve asset { pool.reserves asset with elToken })
      asset := .setReserve rfl rfl rfl
  exact burned.trans ⟨rfl, rfl, rfl⟩

theorem burnVariableDebt_indexes (h : pool.burnVariableDebt asset u amount = .ok pool') :
    pool.SameIndexes pool' asset := by
  obtain ⟨token, _, rfl⟩ := burnVariableDebt_eq_ok h
  exact .setReserve rfl rfl rfl

theorem deposit_units (hu : u ≠ (pool.reserves asset).elToken.treasury)
    (h : pool.deposit t msgSender asset amount u = .ok pool') :
    ∃ scaled, rayDiv amount (pool'.reserves asset).liquidityIndex = .ok scaled ∧
      (pool'.reserves asset).elToken.balances u =
        (pool.reserves asset).elToken.balances u + scaled ∧
      (pool'.reserves asset).lastUpdateTimestamp = uint40 t := by
  obtain ⟨p₁, p₂, p₃, first, p₄, h₁, h₂, h₃, h₄, hbit⟩ := deposit_eq_ok h
  obtain ⟨_, minted, _, _, hnone, _, htime, hbal, _⟩ := updateState_holdings h₁ u
  obtain ⟨rates, _⟩ := updateInterestRates_holdings h₂ asset
  have pulled := pullUnderlying_holdings h₃ asset
  have indexes := (updateInterestRates_indexes h₂).trans
    ((pullUnderlying_indexes h₃).trans (mintELToken_indexes h₄))
  obtain ⟨token, hm, hp₄⟩ := mintELToken_eq_ok h₄
  obtain ⟨scaled, hd, _, hbals, _⟩ := ELToken.mint_eq_ok hm
  have credited : (p₄.reserves asset).elToken.balances u =
      (pool.reserves asset).elToken.balances u + scaled := by
    rw [hnone hu, Nat.add_zero] at hbal
    simp [hp₄, hbals, pulled.elToken, rates.elToken, hbal]
  have same : pool'.reserves = p₄.reserves := by
    obtain ⟨config, rfl⟩ := updateUserConfig_if hbit
    rfl
  rw [same]
  refine ⟨scaled, ?_, credited, indexes.timestamp.trans htime⟩
  rw [(mintELToken_indexes h₄).liquidityIndex]
  exact hd

theorem withdraw_units {paid : Nat} (ht : IsBlockTimestamp t)
    (hlast : (pool.reserves asset).lastUpdateTimestamp = t)
    (h : pool.withdraw t u asset amount recipient = .ok (paid, pool')) :
    pool.SameIndexes pool' asset ∧
      ∃ scaled, rayDiv paid (pool.reserves asset).liquidityIndex = .ok scaled ∧
        (pool.reserves asset).elToken.balances u =
          (pool'.reserves asset).elToken.balances u + scaled := by
  obtain ⟨_, p₁, p₂, p₃, _, _, h₁, h₂, hbit, h₄, rfl⟩ := withdraw_eq_ok h
  rw [updateState_again ht hlast h₁] at h₂
  obtain ⟨rates, _⟩ := updateInterestRates_holdings h₂ asset
  have marked : p₃.reserves = p₂.reserves := by
    obtain ⟨config, rfl⟩ := updateUserConfig_if hbit
    rfl
  obtain ⟨scaled, hd, hle, hbal, _⟩ := burnELToken_holdings h₄
  rw [marked, rates.index] at hd
  rw [marked, rates.elToken] at hle hbal
  refine ⟨?_, scaled, hd, by omega⟩
  exact (updateInterestRates_indexes h₂).trans
    ((SameIndexes.of_reserves marked asset).trans (burnELToken_indexes h₄))

theorem borrow_units (h : pool.borrow t msgSender asset amount 2 u = .ok pool') :
    ∃ scaled, rayDiv amount (pool'.reserves asset).variableBorrowIndex = .ok scaled ∧
      (pool'.reserves asset).variableDebtToken.balances u =
        (pool.reserves asset).variableDebtToken.balances u + scaled ∧
      (pool'.reserves asset).lastUpdateTimestamp = uint40 t := by
  simp only [borrow, bind_eq_ok] at h
  obtain ⟨_, _, h⟩ := h
  have loan := executeBorrow_opensLoan h
  obtain ⟨r, hr, _, _, htime⟩ := loan.accrued
  obtain ⟨_, _, _, _, _, _, rfl, _⟩ := Reserve.updateState_eq_ok hr
  obtain ⟨hmode, _⟩ | ⟨_, _, first, hmint⟩ := loan.minted
  · exact absurd hmode (show (2 : Nat) ≠ 1 by decide)
  · obtain ⟨scaled, hd, _, hbals, _⟩ := VariableDebtToken.mint_eq_ok hmint
    exact ⟨scaled, hd, by simp [hbals], htime⟩

theorem repay_units {paid : Nat} (ht : IsBlockTimestamp t)
    (hlast : (pool.reserves asset).lastUpdateTimestamp = t)
    (h : pool.repay t msgSender asset amount 2 u = .ok (paid, pool')) :
    pool.SameIndexes pool' asset ∧
      ∃ scaled, rayDiv paid (pool.reserves asset).variableBorrowIndex = .ok scaled ∧
        (pool.reserves asset).variableDebtToken.balances u =
          (pool'.reserves asset).variableDebtToken.balances u + scaled := by
  obtain ⟨_, _, mode, p₁, p₂, p₃, p₄, _, _, hmode, _, _, h₁, h₂, h₃, _, hbit, h₅⟩ := repay_eq_ok h
  cases Except.ok.inj hmode
  rw [updateState_again ht hlast h₁] at h₂
  rw [burnDebt, if_neg (by decide)] at h₂
  have burned := burnVariableDebt_indexes h₂
  obtain ⟨token, hb, hp₂⟩ := burnVariableDebt_eq_ok h₂
  obtain ⟨scaled, hd, _, hle, _, hbals, _⟩ := VariableDebtToken.burn_eq_ok hb
  have cleared : p₄.reserves = p₃.reserves := by
    obtain ⟨config, rfl⟩ := updateUserConfig_if hbit
    rfl
  have left : (pool'.reserves asset).variableDebtToken.balances u =
      (pool.reserves asset).variableDebtToken.balances u - scaled := by
    obtain ⟨_, _, rfl⟩ := pullUnderlying_eq_ok h₅
    obtain ⟨r, hr, rfl⟩ := updateInterestRates_eq_ok h₃
    obtain ⟨rates, _, rfl⟩ := Reserve.updateInterestRates_eq_ok hr
    simp [cleared, hp₂, hbals]
  refine ⟨?_, scaled, hd, by omega⟩
  exact burned.trans ((updateInterestRates_indexes h₃).trans
    ((SameIndexes.of_reserves cleared asset).trans (pullUnderlying_indexes h₅)))

end LendingPool

end ElectroLend
