import ElectroLend.Pool.Changes
import ElectroLend.Properties.AccountDebt
import ElectroLend.Properties.ListingFrames

namespace ElectroLend

open Outcome

namespace LendingPool

variable {pool pool' : LendingPool} {t : Nat} {asset u : Address} {events : List Event}

theorem WellListed.listReserve_eq_ok {input : InitReserveInput} (inv : pool.WellListed)
    (h : pool.listReserve input = .ok pool') :
    (pool.reserves input.underlyingAsset).Blank ∧ pool'.WellListed ∧ ∃ configuration,
      pool' = { pool.setReserve input.underlyingAsset
          { pool.freshReserve input with id := pool.reservesCount, configuration } with
        reservesList :=
          Function.update pool.reservesList pool.reservesCount input.underlyingAsset
        reservesCount := pool.reservesCount + 1 } := by
  obtain ⟨hel, hst, hva, new, added, configuration, hadd, rfl⟩ := LendingPool.listReserve_eq_ok h
  have blank : (pool.reserves input.underlyingAsset).Blank := by
    obtain hb | ⟨hl, _⟩ := inv.known input.underlyingAsset
    · exact hb
    · exact absurd new hl.elToken
  have kept : (pool.freshReserve input).id = (pool.reserves input.underlyingAsset).id := rfl
  obtain ⟨room, rfl⟩ := inv.addReserveToList_eq_ok blank kept hadd
  have fresh : (pool.freshReserve input).Listed := freshReserve_listed hel hst hva
  have listed : Reserve.Listed
      { pool.freshReserve input with id := pool.reservesCount, configuration } :=
    ⟨fresh.elToken, fresh.stableDebtToken, fresh.variableDebtToken, fresh.index⟩
  have stored : setConfiguration { pool.setReserve input.underlyingAsset
      { pool.freshReserve input with id := pool.reservesCount } with
        reservesList :=
          Function.update pool.reservesList pool.reservesCount input.underlyingAsset
        reservesCount := pool.reservesCount + 1 } input.underlyingAsset configuration =
      { pool.setReserve input.underlyingAsset
          { pool.freshReserve input with id := pool.reservesCount, configuration } with
        reservesList :=
          Function.update pool.reservesList pool.reservesCount input.underlyingAsset
        reservesCount := pool.reservesCount + 1 } := by
    simp [setConfiguration, setReserve]
  rw [stored]
  exact ⟨blank, inv.append blank room listed rfl, configuration, rfl⟩

/-- Nobody has a bit at a position that no reserve has. -/
def BitsListed (pool : LendingPool) : Prop :=
  ∀ u i, pool.reservesCount ≤ i → (pool.usersConfig u).borrowingBit i = false ∧
    (pool.usersConfig u).collateralBit i = false

theorem BitsListed.same (h : pool.BitsListed) (count : pool.reservesCount ≤ pool'.reservesCount)
    (config : pool'.usersConfig = pool.usersConfig) : pool'.BitsListed := by
  intro u i hi
  rw [config]
  exact h u i (count.trans hi)

theorem WellListed.id_lt (inv : pool.WellListed) (deployed : pool.Deployed asset) :
    (pool.reserves asset).id < pool.reservesCount := by
  obtain blank | ⟨_, hid, _⟩ := inv.known asset
  · obtain hel | hva := deployed
    · exact absurd blank.elToken hel
    · exact absurd blank.variableDebtToken hva
  · exact hid

/-- Beyond the list no bit is set for a deployed reserve. -/
theorem WellListed.clear_beyond {value : Bool} {i : Nat} (listing : pool.WellListed)
    (deployed : value = true → pool.Deployed asset) (hi : pool.reservesCount ≤ i)
    (hid : i = (pool.reserves asset).id) : value = false := by
  cases hv : value with
  | false => rfl
  | true =>
    have low := listing.id_lt (deployed hv)
    omega

theorem setUsingAsCollateral_bitsListed {value : Bool} (listing : pool.WellListed)
    (bits : pool.BitsListed) (deployed : value = true → pool.Deployed asset)
    (h : pool.setUsingAsCollateral u (pool.reserves asset).id value = .ok pool') :
    pool'.BitsListed := by
  obtain ⟨config, hc, rfl⟩ := setUsingAsCollateral_eq_ok h
  obtain ⟨_, hcollateral, hborrowing⟩ := UserConfigurationMap.setUsingAsCollateral_eq_ok hc
  intro w i hi
  obtain ⟨hb, hcol⟩ := bits w i hi
  by_cases hw : w = u
  · subst hw
    simp only [setUserConfig_usersConfig, Function.update_self, hborrowing, hcollateral]
    refine ⟨hb, ?_⟩
    split
    next hid => exact listing.clear_beyond deployed hi hid
    next => exact hcol
  · simpa [hw] using ⟨hb, hcol⟩

theorem setBorrowing_bitsListed {value : Bool} (listing : pool.WellListed)
    (bits : pool.BitsListed) (deployed : value = true → pool.Deployed asset)
    (h : pool.setBorrowing u (pool.reserves asset).id value = .ok pool') : pool'.BitsListed := by
  obtain ⟨config, hc, rfl⟩ := setBorrowing_eq_ok h
  obtain ⟨_, hborrowing, hcollateral⟩ := UserConfigurationMap.setBorrowing_eq_ok hc
  intro w i hi
  obtain ⟨hb, hcol⟩ := bits w i hi
  by_cases hw : w = u
  · subst hw
    simp only [setUserConfig_usersConfig, Function.update_self, hborrowing, hcollateral]
    refine ⟨?_, hcol⟩
    split
    next hid => exact listing.clear_beyond deployed hi hid
    next => exact hb
  · simpa [hw] using ⟨hb, hcol⟩

theorem Write.bitsListed (listing : pool.WellListed) (bits : pool.BitsListed)
    (h : Write t events pool pool') : pool'.BitsListed := by
  cases h with
  | updateState h =>
    obtain ⟨_, _, rfl⟩ := updateState_eq_ok h
    exact bits
  | updateInterestRates _ h =>
    obtain ⟨_, _, rfl⟩ := updateInterestRates_eq_ok h
    exact bits
  | cumulateToLiquidityIndex h =>
    obtain ⟨_, _, rfl⟩ := cumulateToLiquidityIndex_eq_ok h
    exact bits
  | setUsingAsCollateral deployed h =>
    exact setUsingAsCollateral_bitsListed listing bits deployed h
  | setBorrowing deployed h => exact setBorrowing_bitsListed listing bits deployed h
  | setToken _ asset token => exact bits
  | setELToken _ => exact bits
  | mintVariableDebt h =>
    obtain ⟨_, _, rfl⟩ := mintVariableDebt_eq_ok h
    exact bits
  | burnVariableDebt h =>
    obtain ⟨_, _, rfl⟩ := burnVariableDebt_eq_ok h
    exact bits
  | mintStableDebt _ h =>
    obtain ⟨_, _, rfl⟩ := mintStableDebt_eq_ok h
    exact bits
  | burnStableDebt _ h =>
    obtain ⟨_, _, rfl⟩ := burnStableDebt_eq_ok h
    exact bits
  | approveStableDelegation _ msgSender asset delegatee amount => exact bits
  | approveVariableDelegation _ msgSender asset delegatee amount => exact bits
  | listReserve h =>
    obtain ⟨_, _, configuration, rfl⟩ := listing.listReserve_eq_ok h
    exact bits.same (Nat.le_succ _) rfl
  | setConfiguration _ asset configuration => exact bits
  | setReserveInterestRateStrategy _ asset strategy => exact bits
  | setWorld _ paused priceOracle lendingRateOracle => exact bits

theorem Write.wellListed (listing : pool.WellListed) (h : Write t events pool pool') :
    pool'.WellListed := by
  obtain frame | ⟨input, hlist, _⟩ := h.listFrame
  · exact listing.frame frame
  · exact (listing.listReserve_eq_ok hlist).2.1

theorem addReserve_unused {userConfig : UserConfigurationMap} {i : Nat} (hi : i < 128)
    (hborrowing : userConfig.borrowingBit i = false)
    (hcollateral : userConfig.collateralBit i = false) (vars : AccountTotals) :
    pool.addReserve t u userConfig vars i = .ok vars := by
  have inactive : userConfig.isUsingAsCollateralOrBorrowing i = .ok false :=
    UserConfigurationMap.isUsingAsCollateralOrBorrowing_eq_ok.mpr
      ⟨hi, by rw [hborrowing, hcollateral]; rfl⟩
  simp [addReserve, inactive]

theorem addReserve_congr {i : Nat} (list : pool'.reservesList i = pool.reservesList i)
    (reserve : pool'.reserves (pool.reservesList i) = pool.reserves (pool.reservesList i))
    (price : pool'.priceOracle = pool.priceOracle) (userConfig : UserConfigurationMap)
    (vars : AccountTotals) :
    pool'.addReserve t u userConfig vars i = pool.addReserve t u userConfig vars i := by
  simp only [addReserve, addCollateral, addDebt, list, reserve, price]

theorem foldlM_congr_range {α : Type} {f g : α → Nat → Result α} {n : Nat}
    (h : ∀ i, i < n → ∀ a, f a i = g a i) (a : α) :
    (List.range n).foldlM f a = (List.range n).foldlM g a := by
  induction n generalizing a with
  | zero => rfl
  | succ n ih =>
    have before := ih (fun i hi => h i (by omega))
    simp only [List.range_succ, List.foldlM_append, before, List.foldlM_cons, List.foldlM_nil,
      h n (Nat.lt_succ_self n)]

/-- A listing changes no account: its reserve stands at a position that nobody uses. -/
theorem listReserve_accounts {input : InitReserveInput} (listing : pool.WellListed)
    (bits : pool.BitsListed) (h : pool.listReserve input = .ok pool') (t : Nat) (u : Address) :
    pool'.calculateUserAccountData t u (pool'.usersConfig u) =
      pool.calculateUserAccountData t u (pool.usersConfig u) := by
  obtain ⟨blank, listing', configuration, hpool⟩ := listing.listReserve_eq_ok h
  have room : pool.reservesCount < 128 := by
    have full := listing'.count_le
    have max := listing'.max_eq
    rw [hpool] at full max
    exact full.trans_eq max
  obtain ⟨hborrowing, hcollateral⟩ := bits u pool.reservesCount (Nat.le_refl _)
  have kept : ∀ i, i < pool.reservesCount → ∀ vars,
      pool'.addReserve t u (pool.usersConfig u) vars i =
        pool.addReserve t u (pool.usersConfig u) vars i := by
    intro i hi vars
    obtain ⟨hl, _⟩ := listing.listed i hi
    have other : pool.reservesList i ≠ input.underlyingAsset := by
      intro he
      rw [he] at hl
      exact hl.elToken blank.elToken
    refine addReserve_congr ?_ ?_ ?_ _ vars
    · rw [hpool]
      exact Function.update_of_ne (Nat.ne_of_lt hi) _ _
    · rw [hpool]
      exact Function.update_of_ne other _ _
    · rw [hpool]
      rfl
  have loop : (List.range pool'.reservesCount).foldlM
      (pool'.addReserve t u (pool.usersConfig u)) ⟨0, 0, 0, 0⟩ =
        (List.range pool.reservesCount).foldlM
          (pool.addReserve t u (pool.usersConfig u)) ⟨0, 0, 0, 0⟩ := by
    have count : pool'.reservesCount = pool.reservesCount + 1 := by rw [hpool]
    rw [count, List.range_succ, List.foldlM_append, foldlM_congr_range kept]
    simp only [List.foldlM_cons, List.foldlM_nil, addReserve_unused room hborrowing hcollateral,
      ok_bind]
    exact bind_pure _
  have config : pool'.usersConfig = pool.usersConfig := by
    rw [hpool]
    rfl
  rw [config, calculateUserAccountData, loop, ← calculateUserAccountData]

end LendingPool

open LendingPool

variable {pool pool' : LendingPool} {t : Nat}

theorem listing_invariant :
    TimedInvariant fun _ pool => pool.WellListed ∧ pool.BitsListed where
  later _ _ _ _ inv := inv
  write _ _ _ _ _ inv h := ⟨h.wellListed inv.1, h.bitsListed inv.1 inv.2⟩

theorem Visited.listing {rules : Rules} (h : Visited rules t pool) :
    pool.WellListed ∧ pool.BitsListed := by
  refine listing_invariant.visited ?_ h
  intro t this tokens priceOracle lendingRateOracle isContract
  exact ⟨initialized_wellListed this tokens priceOracle lendingRateOracle isContract,
    fun u i _ => ⟨by simp [initialized, UserConfigurationMap.borrowingBit],
      by simp [initialized, UserConfigurationMap.collateralBit]⟩⟩

/-- The list in every visited state: positions and ids correspond one to one, every initialised
reserve is at a position, and no user has a bit at another. -/
structure LendingPool.ListInOrder (pool : LendingPool) : Prop where
  count_le : pool.reservesCount ≤ pool.maxNumberOfReserves
  id_at : ∀ i, i < pool.reservesCount → (pool.reserves (pool.reservesList i)).id = i
  distinct : ∀ i j, i < pool.reservesCount → j < pool.reservesCount →
    pool.reservesList i = pool.reservesList j → i = j
  initialised_listed : ∀ asset, (pool.reserves asset).elTokenAddress ≠ 0 →
    (pool.reserves asset).id < pool.reservesCount ∧
      pool.reservesList (pool.reserves asset).id = asset
  listed_initialised : ∀ i, i < pool.reservesCount →
    (pool.reserves (pool.reservesList i)).elTokenAddress ≠ 0
  bits : ∀ u i, pool.reservesCount ≤ i → (pool.usersConfig u).borrowingBit i = false ∧
    (pool.usersConfig u).collateralBit i = false

theorem LendingPool.WellListed.inOrder (inv : pool.WellListed) (bits : pool.BitsListed) :
    pool.ListInOrder where
  count_le := inv.count_le
  id_at i hi := (inv.listed i hi).2
  distinct i j hi hj he := by
    rw [← (inv.listed i hi).2, he, (inv.listed j hj).2]
  initialised_listed asset hne := by
    obtain blank | ⟨_, hid, hlist⟩ := inv.known asset
    · exact absurd blank.elToken hne
    · exact ⟨hid, hlist⟩
  listed_initialised i hi := (inv.listed i hi).1.elToken
  bits := bits

/-- In every run the list is in order, and a listing changes no user's account. -/
theorem list_in_order (visited : Visited .any t pool) :
    pool.ListInOrder ∧ ∀ input pool', pool.listReserve input = .ok pool' → ∀ t u,
      pool'.calculateUserAccountData t u (pool'.usersConfig u) =
        pool.calculateUserAccountData t u (pool.usersConfig u) := by
  obtain ⟨listing, bits⟩ := visited.listing
  exact ⟨listing.inOrder bits, fun input pool' h => listReserve_accounts listing bits h⟩

/-- A third asset is listed while bob owes weth against dai. -/
theorem borrowedMarket_list_in_order :
    borrowedMarket.ListInOrder ∧
      ∃ pool', borrowedMarket.listReserve (Market.listing 3) = .ok pool' ∧
        pool'.calculateUserAccountData 4 Market.bob (pool'.usersConfig Market.bob) =
          borrowedMarket.calculateUserAccountData 4 Market.bob
            (borrowedMarket.usersConfig Market.bob) := by
  have reachable : Reachable .any 3 borrowedMarket :=
    Market.endState_reachable (by decide +kernel) (by decide +kernel)
  have listed : (borrowedMarket.listReserve (Market.listing 3)).isOk = true := by decide +kernel
  obtain ⟨pool', hlist⟩ := exists_of_isOk listed
  obtain ⟨order, accounts⟩ := list_in_order (reachable.visited (by decide))
  exact ⟨order, pool', hlist, accounts _ _ hlist 4 Market.bob⟩

end ElectroLend
