import ElectroLend.Pool.DebtFrame

namespace ElectroLend

open Outcome

structure Reserve.Listed (r : Reserve) : Prop where
  elToken : r.elTokenAddress ≠ 0
  stableDebtToken : r.stableDebtTokenAddress ≠ 0
  variableDebtToken : r.variableDebtTokenAddress ≠ 0
  index : RAY ≤ r.variableBorrowIndex

structure Reserve.Blank (r : Reserve) : Prop where
  elToken : r.elTokenAddress = 0
  variableDebtToken : r.variableDebtTokenAddress = 0
  id : r.id = 0

theorem Reserve.SameListing.listed {r r' : Reserve} (h : r.SameListing r') (hl : r.Listed) :
    r'.Listed where
  elToken := h.elToken ▸ hl.elToken
  stableDebtToken := h.stableDebtToken ▸ hl.stableDebtToken
  variableDebtToken := h.variableDebtToken ▸ hl.variableDebtToken
  index := hl.index.trans h.variableBorrowIndex

namespace LendingPool

/-- The list and the ids describe each other, and every other asset is blank. -/
structure WellListed (pool : LendingPool) : Prop where
  count_le : pool.reservesCount ≤ pool.maxNumberOfReserves
  max_eq : pool.maxNumberOfReserves = 128
  listed : ∀ i, i < pool.reservesCount →
    (pool.reserves (pool.reservesList i)).Listed ∧ (pool.reserves (pool.reservesList i)).id = i
  known : ∀ asset, (pool.reserves asset).Blank ∨
    ((pool.reserves asset).Listed ∧ (pool.reserves asset).id < pool.reservesCount ∧
      pool.reservesList (pool.reserves asset).id = asset)

variable {pool pool' : LendingPool} {asset : Address} {r : Reserve}

theorem WellListed.frame (inv : pool.WellListed) (h : pool.ListFrame pool') :
    pool'.WellListed where
  count_le := by
    rw [h.count, h.max]
    exact inv.count_le
  max_eq := h.max.trans inv.max_eq
  listed i hi := by
    rw [h.count] at hi
    rw [h.list]
    have same := h.reserve (pool.reservesList i)
    obtain ⟨hl, hid⟩ := inv.listed i hi
    exact ⟨same.listed hl, same.id.trans hid⟩
  known a := by
    have same := h.reserve a
    obtain hb | ⟨hl, hid, hlist⟩ := inv.known a
    · exact .inl ⟨same.elToken.trans hb.elToken,
        same.variableDebtToken.trans hb.variableDebtToken, same.id.trans hb.id⟩
    · refine .inr ⟨same.listed hl, ?_, ?_⟩
      · rw [same.id, h.count]
        exact hid
      · rw [same.id, h.list]
        exact hlist

theorem WellListed.asset_eq (inv : pool.WellListed) {a b : Address}
    (ha : (pool.reserves a).variableDebtTokenAddress ≠ 0)
    (hb : (pool.reserves b).variableDebtTokenAddress ≠ 0)
    (hid : (pool.reserves a).id = (pool.reserves b).id) : a = b := by
  obtain hblank | ⟨_, _, hla⟩ := inv.known a
  · exact absurd hblank.variableDebtToken ha
  · obtain hblank | ⟨_, _, hlb⟩ := inv.known b
    · exact absurd hblank.variableDebtToken hb
    · rw [← hla, ← hlb, hid]

/-- A blank asset with three tokens can be appended to the list, under the next id. -/
theorem WellListed.append (inv : pool.WellListed) (blank : (pool.reserves asset).Blank)
    (room : pool.reservesCount < pool.maxNumberOfReserves) (listed : r.Listed)
    (hid : r.id = pool.reservesCount) :
    WellListed { pool.setReserve asset r with
      reservesList := Function.update pool.reservesList pool.reservesCount asset
      reservesCount := pool.reservesCount + 1 } where
  count_le := room
  max_eq := inv.max_eq
  listed i hi := by
    by_cases hlast : i = pool.reservesCount
    · subst hlast
      simpa using ⟨listed, hid⟩
    · have hlow : i < pool.reservesCount := by
        have hi : i < pool.reservesCount + 1 := hi
        omega
      obtain ⟨hl, he⟩ := inv.listed i hlow
      have hne : pool.reservesList i ≠ asset := by
        intro ha
        rw [ha] at hl
        exact hl.elToken blank.elToken
      simpa [Function.update_of_ne hlast, hne] using ⟨hl, he⟩
  known a := by
    by_cases ha : a = asset
    · subst ha
      refine .inr ?_
      simpa [hid] using listed
    · obtain hb | ⟨hl, hlow, hlist⟩ := inv.known a
      · exact .inl (by simpa [ha] using hb)
      · refine .inr ⟨by simpa [ha] using hl, ?_, ?_⟩
        · simp only [setReserve_reserves, Function.update_of_ne ha]
          omega
        · simpa [ha, Nat.ne_of_lt hlow] using hlist

theorem initialized_wellListed (this : Address) (tokens : Address → ERC20)
    (priceOracle lendingRateOracle : Address → Nat) (isContract : Address → Bool) :
    (LendingPool.initialized this tokens priceOracle lendingRateOracle
      isContract).WellListed where
  count_le := Nat.zero_le _
  max_eq := rfl
  listed i hi := absurd hi (Nat.not_lt_zero i)
  known _ := .inl ⟨rfl, rfl, rfl⟩

/-- Only a blank asset can be listed, and it was not in the list. -/
theorem WellListed.addReserveToList_eq_ok (inv : pool.WellListed)
    (blank : (pool.reserves asset).Blank) (hid : r.id = (pool.reserves asset).id)
    (h : (pool.setReserve asset r).addReserveToList asset = .ok pool') :
    pool.reservesCount < pool.maxNumberOfReserves ∧
      pool' = { pool.setReserve asset { r with id := pool.reservesCount } with
        reservesList := Function.update pool.reservesList pool.reservesCount asset
        reservesCount := pool.reservesCount + 1 } := by
  obtain ⟨room, ⟨hadded, hpos, _⟩ | ⟨_, rfl⟩⟩ := LendingPool.addReserveToList_eq_ok h
  · exfalso
    simp only [setReserve_reserves, Function.update_self, setReserve_reservesList,
      setReserve_reservesCount, hid, blank.id, ne_eq, not_true_eq_false, false_or] at hadded hpos
    obtain ⟨hl, _⟩ := inv.listed 0 hpos
    rw [hadded] at hl
    exact hl.elToken blank.elToken
  · simp only [setReserve_reservesCount, setReserve_maxNumberOfReserves] at room
    have hmax := inv.max_eq
    have hsame : uint8 pool.reservesCount = pool.reservesCount := Nat.mod_eq_of_lt (by omega)
    exact ⟨room, by simp [setReserve, hsame]⟩

theorem freshReserve_listed {input : InitReserveInput} (hel : input.elTokenAddress ≠ 0)
    (hst : input.stableDebtTokenAddress ≠ 0) (hva : input.variableDebtTokenAddress ≠ 0) :
    (pool.freshReserve input).Listed where
  elToken := hel
  stableDebtToken := hst
  variableDebtToken := hva
  index := Nat.le_of_eq (uint128_of_le (by decide)).symm

end LendingPool

end ElectroLend
