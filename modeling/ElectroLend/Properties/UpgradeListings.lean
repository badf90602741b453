import ElectroLend.Pool.Scripts
import ElectroLend.Properties.ListingFrames

namespace ElectroLend

open Outcome

namespace LendingPool

def IsListed (pool : LendingPool) (asset : Address) : Prop :=
  ∃ i, i < pool.reservesCount ∧ pool.reservesList i = asset

/-- What a listing of any version does: `r` enters the list, if it was not in it. -/
structure Lists (pool pool' : LendingPool) (asset : Address) (r : Reserve) : Prop where
  others : ∀ a, a ≠ asset → pool'.reserves a = pool.reserves a
  elToken : (pool'.reserves asset).elTokenAddress = r.elTokenAddress
  liquidityIndex : (pool'.reserves asset).liquidityIndex = r.liquidityIndex
  variableBorrowIndex : (pool'.reserves asset).variableBorrowIndex = r.variableBorrowIndex
  listed : ∀ a, pool'.IsListed a → a = asset ∨ pool.IsListed a

variable {pool pool' added : LendingPool} {t : Nat} {asset a : Address} {r : Reserve}
  {input : InitReserveInput}

theorem lists_of_addReserveToList {configuration : ReserveConfigurationMap}
    (h : (pool.setReserve asset r).addReserveToList asset = .ok added)
    (hp : pool' = added.setConfiguration asset configuration) : pool.Lists pool' asset r := by
  subst hp
  obtain ⟨_, ⟨_, _, rfl⟩ | ⟨_, rfl⟩⟩ := addReserveToList_eq_ok h
  · refine ⟨?_, by simp [setConfiguration], by simp [setConfiguration],
      by simp [setConfiguration], fun a ha => .inr ha⟩
    intro a ha
    simp [setConfiguration, ha]
  · refine ⟨?_, by simp [setConfiguration], by simp [setConfiguration],
      by simp [setConfiguration], ?_⟩
    · intro a ha
      simp [setConfiguration, ha]
    · rintro a ⟨i, hi, hlist⟩
      change i < pool.reservesCount + 1 at hi
      change Function.update pool.reservesList pool.reservesCount asset i = a at hlist
      by_cases hlast : i = pool.reservesCount
      · subst hlast
        rw [Function.update_self] at hlist
        exact .inl hlist.symm
      · rw [Function.update_of_ne hlast] at hlist
        exact .inr ⟨i, by omega, hlist⟩

theorem listReserve_lists (h : pool.listReserve input = .ok pool') :
    (pool.reserves input.underlyingAsset).elTokenAddress = 0 ∧ input.elTokenAddress ≠ 0 ∧
      pool.Lists pool' input.underlyingAsset (pool.freshReserve input) := by
  obtain ⟨hel, _, _, hblank, added, configuration, hadd, hp⟩ := listReserve_eq_ok h
  exact ⟨hblank, hel, lists_of_addReserveToList hadd hp⟩

/-- LendingPoolTmp lists whatever it is given, at the indexes that are there. -/
theorem listReserveTmp_lists (h : pool.listReserveTmp input = .ok pool') :
    input.elTokenAddress ≠ 0 ∧ ∃ r : Reserve, pool.Lists pool' input.underlyingAsset r ∧
      r.elTokenAddress = input.elTokenAddress ∧
      r.liquidityIndex = (pool.reserves input.underlyingAsset).liquidityIndex ∧
      r.variableBorrowIndex = (pool.reserves input.underlyingAsset).variableBorrowIndex := by
  simp only [listReserveTmp, initReserveTmp, requireContract, bind_eq_ok, require_eq_ok,
    pure_eq_ok] at h
  obtain ⟨_, hel, _, _, _, _, added, ⟨_, _, hadd⟩, _, _, rfl⟩ := h
  exact ⟨hel, _, lists_of_addReserveToList hadd rfl, rfl, rfl, rfl⟩

/-- Whatever is listed has an elToken, and the asset has indexes once it has one. -/
structure SoundAt (pool : LendingPool) (asset : Address) : Prop where
  elToken : ∀ a, pool.IsListed a → (pool.reserves a).elTokenAddress ≠ 0
  indexes : (pool.reserves asset).elTokenAddress ≠ 0 →
    RAY ≤ (pool.reserves asset).liquidityIndex ∧ RAY ≤ (pool.reserves asset).variableBorrowIndex

theorem SoundAt.frame (inv : pool.SoundAt asset) (h : pool.ListFrame pool') :
    pool'.SoundAt asset where
  elToken a := by
    rintro ⟨i, hi, hlist⟩
    rw [h.count] at hi
    rw [h.list] at hlist
    rw [(h.reserve a).elToken]
    exact inv.elToken a ⟨i, hi, hlist⟩
  indexes hel := by
    have same := h.reserve asset
    rw [same.elToken] at hel
    obtain ⟨hl, hv⟩ := inv.indexes hel
    exact ⟨hl.trans same.liquidityIndex, hv.trans same.variableBorrowIndex⟩

/-- A listing keeps the asset sound when it sets sound indexes, or lists another asset. -/
theorem SoundAt.lists (inv : pool.SoundAt asset) (h : pool.Lists pool' a r)
    (hel : r.elTokenAddress ≠ 0)
    (hindex : asset = a → RAY ≤ r.liquidityIndex ∧ RAY ≤ r.variableBorrowIndex) :
    pool'.SoundAt asset where
  elToken b hb := by
    by_cases hba : b = a
    · rw [hba, h.elToken]
      exact hel
    · rw [h.others b hba]
      exact inv.elToken b ((h.listed b hb).resolve_left hba)
  indexes hset := by
    by_cases ha : asset = a
    · have same := hindex ha
      subst ha
      rw [h.liquidityIndex, h.variableBorrowIndex]
      exact same
    · rw [h.others asset ha] at hset ⊢
      exact inv.indexes hset

/-- The three tokens of the asset are the given ones. -/
structure TokensAt (pool : LendingPool) (asset elToken stableDebtToken variableDebtToken : Address) :
    Prop where
  elToken : (pool.reserves asset).elTokenAddress = elToken
  stableDebtToken : (pool.reserves asset).stableDebtTokenAddress = stableDebtToken
  variableDebtToken : (pool.reserves asset).variableDebtTokenAddress = variableDebtToken

end LendingPool

open LendingPool

/-- LendingPoolTmp is not asked to list the asset before it has an elToken. -/
def NotFirstListedByTmp (asset : Address) : VersionRules := fun version pool call =>
  ∀ input, version = .lendingPoolTmp → call = .listReserve input → input.underlyingAsset = asset →
    (pool.reserves asset).elTokenAddress ≠ 0

/-- LendingPoolTmp is not asked to list the asset. -/
def NotListedByTmp (asset : Address) : VersionRules := fun version _ call =>
  ∀ input, version = .lendingPoolTmp → call = .listReserve input → input.underlyingAsset ≠ asset

variable {version : PoolVersion} {pool pool' : LendingPool} {t : Nat} {asset : Address}

theorem exec_listReserve {msgSender : Address} {input : InitReserveInput}
    (h : version.exec t msgSender (.listReserve input) pool = .ok pool') :
    (version ≠ .lendingPoolTmp ∧ pool.listReserve input = .ok pool') ∨
      (version = .lendingPoolTmp ∧ pool.listReserveTmp input = .ok pool') := by
  cases version with
  | lendingPool => exact .inl ⟨by decide, h⟩
  | lendingPoolTmp => exact .inr ⟨rfl, h⟩
  | lendingPoolV4 => exact .inl ⟨by decide, h⟩

theorem VersionSteps.soundAt
    (run : VersionSteps (NotFirstListedByTmp asset) version t pool pool')
    (inv : pool.SoundAt asset) : pool'.SoundAt asset := by
  refine run.invariant (·.SoundAt asset) (fun _ _ inv frame => inv.frame frame) ?_ inv
  intro pool pool' msgSender input inv rule h
  obtain ⟨_, hlist⟩ | ⟨htmp, hlist⟩ := exec_listReserve h
  · obtain ⟨_, hel, lists⟩ := listReserve_lists hlist
    have ray : uint128 RAY = RAY := by decide
    exact inv.lists lists hel fun _ => ⟨ray.ge, ray.ge⟩
  · obtain ⟨hel, r, lists, hr, hl, hv⟩ := listReserveTmp_lists hlist
    refine inv.lists lists (hr ▸ hel) ?_
    intro ha
    subst ha
    rw [hl, hv]
    exact inv.indexes (rule input htmp rfl rfl)

theorem VersionSteps.tokensAt {elToken stableDebtToken variableDebtToken : Address}
    (hel : elToken ≠ 0) (run : VersionSteps (NotListedByTmp asset) version t pool pool')
    (inv : pool.TokensAt asset elToken stableDebtToken variableDebtToken) :
    pool'.TokensAt asset elToken stableDebtToken variableDebtToken := by
  refine run.invariant (·.TokensAt asset elToken stableDebtToken variableDebtToken) ?_ ?_ inv
  · intro pool pool' inv frame
    have same := frame.reserve asset
    exact ⟨same.elToken.trans inv.elToken, same.stableDebtToken.trans inv.stableDebtToken,
      same.variableDebtToken.trans inv.variableDebtToken⟩
  · intro pool pool' msgSender input inv rule h
    have other : input.underlyingAsset ≠ asset → pool'.reserves asset = pool.reserves asset := by
      intro hne
      obtain ⟨_, hlist⟩ | ⟨_, hlist⟩ := exec_listReserve h
      · exact (listReserve_lists hlist).2.2.others asset (Ne.symm hne)
      · obtain ⟨_, r, lists, _⟩ := listReserveTmp_lists hlist
        exact lists.others asset (Ne.symm hne)
    have hne : input.underlyingAsset ≠ asset := by
      obtain ⟨_, hlist⟩ | ⟨htmp, _⟩ := exec_listReserve h
      · intro ha
        obtain ⟨hblank, _⟩ := listReserve_lists hlist
        rw [ha, inv.elToken] at hblank
        exact hel hblank
      · exact rule input htmp rfl
    have same := other hne
    exact ⟨same ▸ inv.elToken, same ▸ inv.stableDebtToken, same ▸ inv.variableDebtToken⟩

/-- A listed reserve has indexes in every state of every run, unless LendingPoolTmp was the first to
list it; and its tokens stay the same over any part of a run in which LendingPoolTmp does not list
it again. -/
theorem listing_across_upgrades (asset : Address) :
    (∀ this tokens priceOracle lendingRateOracle isContract t proxy,
      ProxyRun (NotFirstListedByTmp asset) ⟨.lendingPool,
        LendingPool.initialized this tokens priceOracle lendingRateOracle isContract⟩ t proxy →
      proxy.storage.IsListed asset →
        RAY ≤ (proxy.storage.reserves asset).liquidityIndex ∧
        RAY ≤ (proxy.storage.reserves asset).variableBorrowIndex) ∧
    (∀ start t proxy, (start.storage.reserves asset).elTokenAddress ≠ 0 →
      ProxyRun (NotListedByTmp asset) start t proxy →
        (proxy.storage.reserves asset).elTokenAddress =
          (start.storage.reserves asset).elTokenAddress ∧
        (proxy.storage.reserves asset).stableDebtTokenAddress =
          (start.storage.reserves asset).stableDebtTokenAddress ∧
        (proxy.storage.reserves asset).variableDebtTokenAddress =
          (start.storage.reserves asset).variableDebtTokenAddress) := by
  constructor
  · intro this tokens priceOracle lendingRateOracle isContract t proxy run listed
    have sound : proxy.storage.SoundAt asset := by
      refine run.invariant (·.SoundAt asset) ⟨?_, fun hel => absurd rfl hel⟩
        (fun _ _ _ _ inv steps => steps.soundAt inv) (fun _ inv => ⟨inv.elToken, inv.indexes⟩)
      rintro a ⟨i, hi, _⟩
      exact absurd hi (Nat.not_lt_zero i)
    exact sound.indexes (sound.elToken asset listed)
  · intro start t proxy hel run
    have tokens := run.invariant (·.TokensAt asset (start.storage.reserves asset).elTokenAddress
        (start.storage.reserves asset).stableDebtTokenAddress
        (start.storage.reserves asset).variableDebtTokenAddress) ⟨rfl, rfl, rfl⟩
      (fun _ _ _ _ inv steps => steps.tokensAt hel inv)
      (fun _ inv => ⟨inv.elToken, inv.stableDebtToken, inv.variableDebtToken⟩)
    exact ⟨tokens.elToken, tokens.stableDebtToken, tokens.variableDebtToken⟩

theorem ProxyRun.call {allowed : VersionRules} {start : PoolProxy}
    (run : ProxyRun allowed start t ⟨version, pool⟩) (timestamp : IsBlockTimestamp t)
    (msgSender : Address) (call : Call) (rule : allowed version pool call)
    (success : version.exec t msgSender call pool = .ok pool') :
    ProxyRun allowed start t ⟨version, pool'⟩ :=
  run.block (Nat.le_refl t) timestamp (.call (.refl _) msgSender call rule success)

theorem ProxyRun.next {allowed : VersionRules} {start : PoolProxy}
    (run : ProxyRun allowed start t ⟨version, pool⟩) (version' : PoolVersion)
    (later : version.revision < version'.revision) :
    ProxyRun allowed start t ⟨version', pool.initializeStorage⟩ := by
  have success : PoolProxy.setLendingPoolImpl ⟨version, pool⟩ version' =
      .ok ⟨version', pool.initializeStorage⟩ := bind_eq_ok.mpr ⟨(), require_of later, rfl⟩
  exact run.upgrade success

namespace Market

/-- The tokens that weth moves to. -/
def relisting : LendingPool.InitReserveInput :=
  { listing weth with
    elTokenAddress := 210
    stableDebtTokenAddress := 211
    variableDebtTokenAddress := 212 }

end Market

/-- LendingPool lists weth; LendingPoolTmp moves it and lists dai. -/
theorem upgradedMarket_succeeds :
    ∃ listed moved fresh, Market.genesis.listReserve (Market.listing Market.weth) = .ok listed ∧
      listed.initializeStorage.listReserveTmp Market.relisting = .ok moved ∧
      moved.listReserveTmp (Market.listing Market.dai) = .ok fresh ∧
      (listed.reserves Market.weth).elTokenAddress = 110 ∧
      (moved.reserves Market.weth).elTokenAddress = 210 ∧
      moved.reservesCount = 1 ∧ moved.reservesList 0 = Market.weth ∧
      (fresh.reserves Market.weth).elTokenAddress = 210 ∧
      fresh.reservesCount = 2 ∧ fresh.reservesList 1 = Market.dai ∧
      (fresh.reserves Market.dai).liquidityIndex = 0 ∧
      (fresh.reserves Market.dai).variableBorrowIndex = 0 := by
  have success : succeedsWith (do
      let listed ← Market.genesis.listReserve (Market.listing Market.weth)
      let moved ← listed.initializeStorage.listReserveTmp Market.relisting
      let fresh ← moved.listReserveTmp (Market.listing Market.dai)
      pure (listed, moved, fresh))
      (fun run => decide ((run.1.reserves Market.weth).elTokenAddress = 110 ∧
        (run.2.1.reserves Market.weth).elTokenAddress = 210 ∧
        run.2.1.reservesCount = 1 ∧ run.2.1.reservesList 0 = Market.weth ∧
        (run.2.2.reserves Market.weth).elTokenAddress = 210 ∧
        run.2.2.reservesCount = 2 ∧ run.2.2.reservesList 1 = Market.dai ∧
        (run.2.2.reserves Market.dai).liquidityIndex = 0 ∧
        (run.2.2.reserves Market.dai).variableBorrowIndex = 0)) = true := by decide +kernel
  obtain ⟨_, hrun, hafter⟩ := succeedsWith_iff.mp success
  simp only [bind_eq_ok, pure_eq_ok, decide_eq_true_eq] at hrun hafter
  obtain ⟨listed, hlisted, moved, hmoved, fresh, hfresh, rfl⟩ := hrun
  exact ⟨listed, moved, fresh, hlisted, hmoved, hfresh, hafter⟩

/-- Over a run through the three revisions weth changes its elToken, and dai has no indexes. -/
theorem upgradedMarket_dead_and_moved :
    ∃ listed upgraded : LendingPool,
      ProxyRun (fun _ _ _ => True) ⟨.lendingPool, Market.genesis⟩ 0 ⟨.lendingPool, listed⟩ ∧
      ProxyRun (fun _ _ _ => True) ⟨.lendingPool, listed⟩ 0 ⟨.lendingPoolV4, upgraded⟩ ∧
      (listed.reserves Market.weth).elTokenAddress ≠ 0 ∧
      (upgraded.reserves Market.weth).elTokenAddress ≠
        (listed.reserves Market.weth).elTokenAddress ∧
      upgraded.IsListed Market.dai ∧
      (upgraded.reserves Market.dai).liquidityIndex = 0 ∧
      (upgraded.reserves Market.dai).variableBorrowIndex = 0 := by
  have ht : IsBlockTimestamp 0 := show (0 : Nat) < 2 ^ 40 by decide
  obtain ⟨listed, moved, fresh, hlisted, hmoved, hfresh, hold, _, _, _, hnew, hcount, hdai,
    hindexes⟩ := upgradedMarket_succeeds
  have first : ProxyRun (fun _ _ _ => True) ⟨.lendingPool, Market.genesis⟩ 0
      ⟨.lendingPool, listed⟩ :=
    ProxyRun.call (.start 0) ht Market.poolAddress (.listReserve (Market.listing Market.weth))
      trivial hlisted
  have start : ProxyRun (fun _ _ _ => True) ⟨.lendingPool, listed⟩ 0 ⟨.lendingPool, listed⟩ :=
    .start 0
  have tmp : ProxyRun (fun _ _ _ => True) ⟨.lendingPool, listed⟩ 0 ⟨.lendingPoolTmp, fresh⟩ :=
    ((start.next .lendingPoolTmp (by decide)).call ht Market.poolAddress
      (.listReserve Market.relisting) trivial hmoved).call ht Market.poolAddress
      (.listReserve (Market.listing Market.dai)) trivial hfresh
  refine ⟨listed, fresh.initializeStorage, first, tmp.next .lendingPoolV4 (by decide), ?_, ?_, ?_,
    hindexes⟩
  · rw [hold]
    decide
  · rw [hold]
    change (fresh.reserves Market.weth).elTokenAddress ≠ 110
    rw [hnew]
    decide
  · exact ⟨1, show 1 < fresh.reservesCount by omega, hdai⟩

/-- Weth keeps its indexes when LendingPoolTmp moves it, and its tokens when it lists dai. -/
theorem upgradedMarket_keeps :
    ∃ moved kept : LendingPool,
      ProxyRun (NotFirstListedByTmp Market.weth) ⟨.lendingPool, Market.genesis⟩ 0
        ⟨.lendingPoolTmp, moved⟩ ∧
      RAY ≤ (moved.reserves Market.weth).liquidityIndex ∧
      RAY ≤ (moved.reserves Market.weth).variableBorrowIndex ∧
      ProxyRun (NotListedByTmp Market.weth) ⟨.lendingPoolTmp, moved⟩ 0 ⟨.lendingPoolV4, kept⟩ ∧
      (kept.reserves Market.weth).elTokenAddress = (moved.reserves Market.weth).elTokenAddress := by
  have ht : IsBlockTimestamp 0 := show (0 : Nat) < 2 ^ 40 by decide
  obtain ⟨listed, moved, fresh, hlisted, hmoved, hfresh, hold, hnew, hcount, hweth, _⟩ :=
    upgradedMarket_succeeds
  have first : ProxyRun (NotFirstListedByTmp Market.weth) ⟨.lendingPool, Market.genesis⟩ 0
      ⟨.lendingPool, listed⟩ :=
    ProxyRun.call (.start 0) ht Market.poolAddress (.listReserve (Market.listing Market.weth))
      (by rintro _ ⟨⟩) hlisted
  have had : NotFirstListedByTmp Market.weth .lendingPoolTmp listed.initializeStorage
      (.listReserve Market.relisting) := by
    intro _ _ _ _
    change (listed.reserves Market.weth).elTokenAddress ≠ 0
    rw [hold]
    decide
  have run := (first.next .lendingPoolTmp (by decide)).call ht Market.poolAddress
    (.listReserve Market.relisting) had hmoved
  have other : NotListedByTmp Market.weth .lendingPoolTmp moved
      (.listReserve (Market.listing Market.dai)) := by
    rintro _ _ ⟨⟩
    decide
  have start : ProxyRun (NotListedByTmp Market.weth) ⟨.lendingPoolTmp, moved⟩ 0
      ⟨.lendingPoolTmp, moved⟩ := .start 0
  have later := (start.call ht Market.poolAddress (.listReserve (Market.listing Market.dai)) other
    hfresh).next .lendingPoolV4 (by decide)
  have set : (moved.reserves Market.weth).elTokenAddress ≠ 0 := by
    rw [hnew]
    decide
  obtain ⟨sound, same⟩ := listing_across_upgrades Market.weth
  have listed : moved.IsListed Market.weth := ⟨0, by omega, hweth⟩
  obtain ⟨hl, hv⟩ := sound _ _ _ _ _ _ _ run listed
  obtain ⟨hel, _⟩ := same _ _ _ set later
  exact ⟨moved, _, run, hl, hv, later, hel⟩

end ElectroLend
