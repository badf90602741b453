import ElectroLend.Governance.Effects
import ElectroLend.Pool.Upgrades

namespace ElectroLend

open Outcome

namespace Governance

variable {σ : Type} {g g' : Governance σ} {msgSender p : Address}

/-- The implementations that successful upgrades have given to the proxy at an address, in order. -/
def upgradesOf (p : Address) : Governance σ → List (Address × Transaction σ) → List Address
  | _, [] => []
  | g, (msgSender, transaction) :: rest =>
    match g.exec msgSender transaction with
    | .error _ => upgradesOf p g rest
    | .ok g' =>
      match transaction.upgrade with
      | none => upgradesOf p g' rest
      | some (id, implementation) =>
        if g'.provider.getAddress id = p then implementation :: upgradesOf p g' rest
        else upgradesOf p g' rest

theorem history_codeKept {transactions : List (Address × Transaction σ)} (sound : g.Sound)
    (outside : ∀ entry ∈ transactions, entry.1 ≠ g.this) :
    g.CodeKept (g.history transactions) :=
  (history_invariant g.CodeKept (fun _ effect kept => kept.trans effect.codeKept) sound outside
    fun _ => .same _).2.2

/-- What has become of a proxy after a list of upgrades: it runs the last of them, and where it was
initialized and all of them have revisions, these have increased. -/
structure Forward (g final : Governance σ) (p : Address) (proxy : UpgradeabilityProxy σ)
    (upgrades : List Address) (last : UpgradeabilityProxy σ) : Prop where
  own : final.OwnProxy p last
  runs : (proxy.implementation :: upgrades).getLast? = some last.implementation
  later : g.Initialized proxy → (∀ implementation ∈ upgrades, final.Versioned implementation) →
    (proxy.store.lastInitializedRevision :: upgrades.map final.revisionAt).Pairwise (· < ·) ∧
      final.Initialized last

theorem Initialized.revisionAt {final : Governance σ} {proxy : UpgradeabilityProxy σ}
    (initialized : g.Initialized proxy) (kept : g.CodeKept final) :
    final.revisionAt proxy.implementation = proxy.store.lastInitializedRevision := by
  obtain ⟨code, hcode, hrevision, _⟩ := initialized.runs
  rw [kept.revisionAt hcode, hrevision]

theorem Forward.cons {final : Governance σ} {floor : Nat} {implementation : Address}
    {upgrades : List Address} {proxy next last : UpgradeabilityProxy σ} (kept : g'.CodeKept final)
    (moved : g'.Moved p implementation proxy next) (rest : g'.Forward final p next upgrades last)
    (settled : proxy.store.initializing = false) (hfloor : floor = proxy.store.lastInitializedRevision)
    (versioned : ∀ i ∈ implementation :: upgrades, final.Versioned i) :
    (floor :: (implementation :: upgrades).map final.revisionAt).Pairwise (· < ·) ∧
      ((implementation :: upgrades).map final.revisionAt).Pairwise (· < ·) ∧
      final.Initialized last := by
  have present : (g'.contracts implementation).isSome = true := moved.runs ▸ moved.own.present
  obtain ⟨code, hcode⟩ := versioned implementation List.mem_cons_self
  have versioned' : g'.Versioned implementation :=
    ⟨code, ((kept implementation).versioned present).mp hcode⟩
  obtain ⟨lower, initialized⟩ := moved.later settled versioned'
  obtain ⟨increasing, initialized'⟩ :=
    rest.later initialized fun i hi => versioned i (List.mem_cons_of_mem _ hi)
  have hrevision := initialized.revisionAt kept
  rw [moved.runs] at hrevision
  rw [List.map_cons, hrevision]
  refine ⟨List.pairwise_cons.mpr ⟨?_, increasing⟩, increasing, initialized'⟩
  intro revision hmem
  subst hfloor
  obtain rfl | hmem := List.mem_cons.mp hmem
  · exact lower
  · exact Nat.lt_trans lower ((List.pairwise_cons.mp increasing).1 revision hmem)

theorem upgradesOf_at {p : Address} {transaction : Transaction σ} {implementation : Address}
    {rest : List (Address × Transaction σ)} (hexec : g.exec msgSender transaction = .ok g')
    (at_p : g'.UpgradeAt p transaction.upgrade implementation) :
    g.upgradesOf p ((msgSender, transaction) :: rest) = implementation :: g'.upgradesOf p rest := by
  obtain ⟨id, hupgrade, hp⟩ := at_p
  simp only [upgradesOf, hexec, hupgrade, hp, if_true]

theorem upgradesOf_elsewhere {p : Address} {transaction : Transaction σ}
    {rest : List (Address × Transaction σ)} (hexec : g.exec msgSender transaction = .ok g')
    (elsewhere : ∀ implementation, ¬ g'.UpgradeAt p transaction.upgrade implementation) :
    g.upgradesOf p ((msgSender, transaction) :: rest) = g'.upgradesOf p rest := by
  simp only [upgradesOf, hexec]
  split
  next => rfl
  next id implementation hupgrade =>
    exact if_neg fun hp => elsewhere implementation ⟨id, hupgrade, hp⟩

theorem history_own {transactions : List (Address × Transaction σ)} {proxy : UpgradeabilityProxy σ}
    (sound : g.Sound) (outside : ∀ entry ∈ transactions, entry.1 ≠ g.this) (created : g.Created p)
    (own : g.OwnProxy p proxy) :
    ∃ last, g.Forward (g.history transactions) p proxy (g.upgradesOf p transactions) last := by
  induction transactions generalizing g proxy with
  | nil => exact ⟨proxy, own, rfl, fun initialized _ => ⟨List.pairwise_singleton _ _, initialized⟩⟩
  | cons first rest ih =>
    obtain ⟨msgSender, transaction⟩ := first
    have others := fun entry hentry => outside entry (List.mem_cons_of_mem _ hentry)
    cases hexec : g.exec msgSender transaction with
    | error e =>
      simp only [history, upgradesOf, hexec]
      exact ih sound others created own
    | ok g' =>
      have effect := exec_effect sound (outside _ List.mem_cons_self) hexec
      have others' : ∀ entry ∈ rest, entry.1 ≠ g'.this := by
        rw [effect.this]
        exact others
      have sound' := effect.sound sound
      obtain ⟨created', next, ⟨unmoved, elsewhere⟩ | ⟨implementation, at_p, moved⟩⟩ :=
        effect.own created own
      · rw [upgradesOf_elsewhere hexec elsewhere]
        simp only [history, hexec]
        obtain ⟨last, forward⟩ := ih sound' others' created' unmoved.own
        refine ⟨last, forward.own, ?_, fun initialized versioned => ?_⟩
        · rw [← unmoved.implementation]
          exact forward.runs
        · obtain rfl := unmoved.store initialized
          exact forward.later (initialized.kept effect.this effect.codeKept) versioned
      · rw [upgradesOf_at hexec at_p]
        simp only [history, hexec]
        obtain ⟨last, forward⟩ := ih sound' others' created' moved.own
        refine ⟨last, forward.own, ?_, fun initialized versioned => ?_⟩
        · rw [List.getLast?_cons_cons, ← moved.runs]
          exact forward.runs
        · obtain ⟨increasing, _, initialized'⟩ := Forward.cons (history_codeKept sound' others')
            moved forward initialized.initializing rfl versioned
          exact ⟨increasing, initialized'⟩

theorem history_free {transactions : List (Address × Transaction σ)} (sound : g.Sound)
    (outside : ∀ entry ∈ transactions, entry.1 ≠ g.this) (free : g.contracts p = none)
    (created : (g.history transactions).Created p) :
    ∃ last, (g.history transactions).OwnProxy p last ∧
      (g.upgradesOf p transactions).getLast? = some last.implementation ∧
      ((∀ i ∈ g.upgradesOf p transactions, (g.history transactions).Versioned i) →
        ((g.upgradesOf p transactions).map (g.history transactions).revisionAt).Pairwise (· < ·) ∧
          (g.history transactions).Initialized last) := by
  induction transactions generalizing g with
  | nil => exact (sound.created_ne_none created free).elim
  | cons first rest ih =>
    obtain ⟨msgSender, transaction⟩ := first
    have others := fun entry hentry => outside entry (List.mem_cons_of_mem _ hentry)
    cases hexec : g.exec msgSender transaction with
    | error e =>
      simp only [history, hexec] at created
      simp only [history, upgradesOf, hexec]
      exact ih sound others free created
    | ok g' =>
      have effect := exec_effect sound (outside _ List.mem_cons_self) hexec
      have others' : ∀ entry ∈ rest, entry.1 ≠ g'.this := by
        rw [effect.this]
        exact others
      have sound' := effect.sound sound
      simp only [history, hexec] at created
      simp only [history, hexec]
      obtain ⟨free', elsewhere⟩ | ⟨present, unused⟩ | ⟨created', implementation, next, at_p,
        moved⟩ := effect.free sound free
      · rw [upgradesOf_elsewhere hexec elsewhere]
        exact ih sound' others' free' created
      · have stays := history_invariant (fun g => g.contracts p ≠ none ∧ ¬ g.Created p)
          (fun _ effect h => effect.foreign_stays h.1 h.2) sound' others' ⟨present, unused⟩
        exact (stays.2.2.2 created).elim
      · obtain ⟨last, forward⟩ := history_own sound' others' created' moved.own
        rw [upgradesOf_at hexec at_p]
        refine ⟨last, forward.own, ?_, fun versioned => ?_⟩
        · rw [← moved.runs]
          exact forward.runs
        · obtain ⟨_, increasing, initialized⟩ := Forward.cons (history_codeKept sound' others')
            moved forward rfl rfl versioned
          exact ⟨increasing, initialized⟩

variable {deployer initialOwner this : Address} {marketId : String} {blank : σ}

theorem deployed_eq_ok (start : deployed deployer blank this marketId initialOwner = .ok g) :
    g.Sound ∧ g.this = this ∧ g.proxyCreated = [] := by
  simp only [deployed, bind_eq_ok, pure_eq_ok] at start
  obtain ⟨provider, _, rfl⟩ := start
  refine ⟨⟨by simp, ?_⟩, rfl, rfl⟩
  rintro p ⟨id, hid⟩
  cases hid

theorem deployed_getAddress (id : Bytes32)
    (start : deployed deployer blank this marketId initialOwner = .ok g) :
    g.provider.getAddress id = 0 := by
  simp only [deployed, LendingPoolAddressesProvider.deployed,
    LendingPoolAddressesProvider.transferOwnership, bind_eq_ok, pure_eq_ok] at start
  obtain ⟨_, ⟨_, ⟨_, _, _, _, rfl⟩, rfl⟩, rfl⟩ := start
  rfl

theorem updateImpl_onlyOwner {id : Bytes32} {newAddress created : Address}
    (h : (do
      g.provider.onlyOwner msgSender
      g.updateImpl id newAddress created) = .ok g') : g.provider.owner = msgSender := by
  obtain ⟨_, owner, _⟩ := bind_eq_ok.mp h
  exact require_eq_ok.mp owner

theorem exec_outsider {transaction : Transaction σ} (outsider : msgSender ≠ g.provider.owner)
    (h : g.exec msgSender transaction = .ok g') :
    transaction.upgrade = none ∧ g'.provider = g.provider := by
  have create : ∀ {created : Address} {contract : Contract σ}, g.create created contract = .ok g' →
      g'.provider = g.provider := by
    intro created contract h
    obtain ⟨_, _, rfl⟩ := create_eq_ok h
    rfl
  have proxied : ∀ {a : Address}
      {call : UpgradeabilityProxy σ → GovernanceResult (UpgradeabilityProxy σ)},
      g.callProxy a call = .ok g' → g'.provider = g.provider := by
    intro a call h
    obtain ⟨_, _, _, _, rfl⟩ := callProxy_eq_ok h
    rfl
  cases transaction with
  | provide call =>
    obtain ⟨provider, hcall, _⟩ := bind_eq_ok.mp h
    exact (outsider (LendingPoolAddressesProvider.exec_onlyOwner hcall).symm).elim
  | setAddressAsProxy id implementationAddress created =>
    exact (outsider (updateImpl_onlyOwner h).symm).elim
  | setLendingPoolImpl pool created => exact (outsider (updateImpl_onlyOwner h).symm).elim
  | setLendingPoolConfiguratorImpl configurator created =>
    exact (outsider (updateImpl_onlyOwner h).symm).elim
  | initializeProxy proxyAddress logic data => exact ⟨rfl, proxied h⟩
  | upgradeTo proxyAddress newImplementation => exact ⟨rfl, proxied h⟩
  | upgradeToAndCall proxyAddress newImplementation data => exact ⟨rfl, proxied h⟩
  | fallback proxyAddress data => exact ⟨rfl, proxied h⟩
  | deployCode created code => exact ⟨rfl, create h⟩
  | deployUnversioned created execute => exact ⟨rfl, create h⟩
  | deployProxy created admin => exact ⟨rfl, create h⟩

/-- What only the owner can change: the code behind a proxy of the provider may write its storage, as
far as its initializer has not run, but no implementation changes. -/
structure SameRegistry (g g' : Governance σ) : Prop where
  provider : g'.provider = g.provider
  created : g'.proxyCreated = g.proxyCreated
  proxies : ∀ p, g.Created p → ∃ proxy proxy', g.OwnProxy p proxy ∧ g.Unmoved g' p proxy proxy'

theorem SameRegistry.refl (sound : g.Sound) : g.SameRegistry g := by
  refine ⟨rfl, rfl, fun p created => ?_⟩
  obtain ⟨proxy, own⟩ := sound.own p created
  exact ⟨proxy, proxy, own, own, rfl, fun _ => rfl⟩

theorem Effect.sameRegistry {after : Governance σ} (sound : g.Sound) (effect : g.Effect none g')
    (provider : g'.provider = g.provider) (rest : g'.SameRegistry after) : g.SameRegistry after := by
  have created : g'.proxyCreated = g.proxyCreated := by
    cases effect with
    | _ => rfl
  refine ⟨rest.provider.trans provider, rest.created.trans created, ?_⟩
  intro p hcreated
  obtain ⟨proxy, own⟩ := sound.own p hcreated
  obtain ⟨hcreated', next, ⟨unmoved, _⟩ | ⟨_, ⟨_, ⟨⟩, _⟩, _⟩⟩ := effect.own hcreated own
  obtain ⟨next', last, own', unmoved'⟩ := rest.proxies p hcreated'
  have same := unmoved.own.contract.symm.trans own'.contract
  cases same
  refine ⟨proxy, last, own, unmoved'.own, unmoved'.implementation.trans unmoved.implementation, ?_⟩
  intro initialized
  obtain rfl := unmoved.store initialized
  exact unmoved'.store (initialized.kept effect.this effect.codeKept)

theorem history_sameRegistry {transactions : List (Address × Transaction σ)} (sound : g.Sound)
    (outside : ∀ entry ∈ transactions, entry.1 ≠ g.this)
    (outsiders : ∀ entry ∈ transactions, entry.1 ≠ g.provider.owner) :
    g.SameRegistry (g.history transactions) := by
  induction transactions generalizing g with
  | nil => exact .refl sound
  | cons first rest ih =>
    obtain ⟨msgSender, transaction⟩ := first
    have others := fun entry hentry => outside entry (List.mem_cons_of_mem _ hentry)
    have notOwner := fun entry hentry => outsiders entry (List.mem_cons_of_mem _ hentry)
    cases hexec : g.exec msgSender transaction with
    | error e =>
      simp only [history, hexec]
      exact ih sound others notOwner
    | ok g' =>
      obtain ⟨hnone, hprovider⟩ := exec_outsider (outsiders _ List.mem_cons_self) hexec
      have effect := exec_effect sound (outside _ List.mem_cons_self) hexec
      rw [hnone] at effect
      have others' : ∀ entry ∈ rest, entry.1 ≠ g'.this := by
        rw [effect.this]
        exact others
      have notOwner' : ∀ entry ∈ rest, entry.1 ≠ g'.provider.owner := by
        rw [hprovider]
        exact notOwner
      simp only [history, hexec]
      exact effect.sameRegistry sound hprovider (ih (effect.sound sound) others' notOwner')

theorem updateImpl_getAddress {id written : Bytes32} {newAddress created : Address}
    (h : g.updateImpl written newAddress created = .ok g') :
    g'.provider.getAddress id = g.provider.getAddress id ∨
      (g.provider.getAddress id = 0 ∧ g'.Created (g'.provider.getAddress id)) := by
  simp only [updateImpl] at h
  split at h
  next unset =>
    obtain ⟨_, _, h⟩ := bind_eq_ok.mp h
    obtain ⟨_, hcreate, hpure⟩ := bind_eq_ok.mp h
    obtain ⟨_, _, rfl⟩ := create_eq_ok hcreate
    obtain rfl := pure_eq_ok.mp hpure
    by_cases hid : id = written
    · subst hid
      refine .inr ⟨unset, id, ?_⟩
      simp [LendingPoolAddressesProvider.getAddress, LendingPoolAddressesProvider.withAddress]
    · refine .inl ?_
      simp [LendingPoolAddressesProvider.getAddress, LendingPoolAddressesProvider.withAddress, hid,
        setContract]
  next =>
    obtain ⟨_, _, _, _, rfl⟩ := callProxy_eq_ok h
    exact .inl rfl

/-- An address that is not assigned stays, or is that of a new proxy. -/
theorem exec_getAddress {transaction : Transaction σ} {id : Bytes32}
    (undirected : transaction.direct ≠ some id) (h : g.exec msgSender transaction = .ok g') :
    g'.provider.getAddress id = g.provider.getAddress id ∨
      (g.provider.getAddress id = 0 ∧ g'.Created (g'.provider.getAddress id)) := by
  have updated : ∀ {written : Bytes32} {newAddress created : Address},
      (do
        g.provider.onlyOwner msgSender
        g.updateImpl written newAddress created) = .ok g' →
      g'.provider.getAddress id = g.provider.getAddress id ∨
        (g.provider.getAddress id = 0 ∧ g'.Created (g'.provider.getAddress id)) := by
    intro written newAddress created h
    obtain ⟨_, _, hupdate⟩ := bind_eq_ok.mp h
    exact updateImpl_getAddress hupdate
  cases transaction with
  | provide call =>
    obtain ⟨provider, hcall, hpure⟩ := bind_eq_ok.mp h
    obtain rfl := pure_eq_ok.mp hpure
    exact .inl (LendingPoolAddressesProvider.exec_getAddress undirected hcall)
  | setAddressAsProxy id implementationAddress created => exact updated h
  | setLendingPoolImpl pool created => exact updated h
  | setLendingPoolConfiguratorImpl configurator created => exact updated h
  | deployCode created code =>
    obtain ⟨_, _, rfl⟩ := create_eq_ok h
    exact .inl rfl
  | deployUnversioned created execute =>
    obtain ⟨_, _, rfl⟩ := create_eq_ok h
    exact .inl rfl
  | deployProxy created admin =>
    obtain ⟨_, _, rfl⟩ := create_eq_ok h
    exact .inl rfl
  | _ =>
    obtain ⟨_, _, _, _, rfl⟩ := callProxy_eq_ok h
    exact .inl rfl

theorem Effect.created_stays {upgrade : Option (Bytes32 × Address)} (effect : g.Effect upgrade g')
    (created : g.Created p) : g'.Created p := by
  obtain ⟨id, hid⟩ := created
  cases effect with
  | create unset nonzero free given upgraded => exact ⟨id, List.mem_append_left _ hid⟩
  | _ => exact ⟨id, hid⟩

/-- Where `id` is never assigned directly, its address is zero until the first upgrade has created a
proxy, and stays that of the proxy. -/
theorem history_getAddress {transactions : List (Address × Transaction σ)} {id : Bytes32}
    (sound : g.Sound) (outside : ∀ entry ∈ transactions, entry.1 ≠ g.this)
    (undirected : ∀ entry ∈ transactions, entry.2.direct ≠ some id)
    (registered : g.provider.getAddress id = 0 ∨ g.Created (g.provider.getAddress id)) :
    ((g.history transactions).provider.getAddress id = 0 ∨
      (g.history transactions).Created ((g.history transactions).provider.getAddress id)) ∧
      (g.provider.getAddress id ≠ 0 →
        (g.history transactions).provider.getAddress id = g.provider.getAddress id) := by
  induction transactions generalizing g with
  | nil => exact ⟨registered, fun _ => rfl⟩
  | cons first rest ih =>
    obtain ⟨msgSender, transaction⟩ := first
    have others := fun entry hentry => outside entry (List.mem_cons_of_mem _ hentry)
    have undirected' := fun entry hentry => undirected entry (List.mem_cons_of_mem _ hentry)
    cases hexec : g.exec msgSender transaction with
    | error e =>
      simp only [history, hexec]
      exact ih sound others undirected' registered
    | ok g' =>
      have effect := exec_effect sound (outside _ List.mem_cons_self) hexec
      have others' : ∀ entry ∈ rest, entry.1 ≠ g'.this := by
        rw [effect.this]
        exact others
      simp only [history, hexec]
      obtain same | ⟨zero, created⟩ := exec_getAddress (undirected _ List.mem_cons_self) hexec
      · have registered' : g'.provider.getAddress id = 0 ∨ g'.Created (g'.provider.getAddress id) := by
          rw [same]
          exact registered.imp_right effect.created_stays
        obtain ⟨after, stays⟩ := ih (effect.sound sound) others' undirected' registered'
        rw [same] at stays
        exact ⟨after, stays⟩
      · obtain ⟨after, _⟩ := ih (effect.sound sound) others' undirected' (.inr created)
        exact ⟨after, fun hne => (hne zero).elim⟩

/-- The address under an id that nobody assigns directly is settled by the first upgrade: it belongs to
a proxy of the provider, and every later upgrade keeps it. -/
theorem registered_proxy_stays {before after : List (Address × Transaction σ)} {id : Bytes32}
    (start : deployed deployer blank this marketId initialOwner = .ok g)
    (outside : ∀ entry ∈ before ++ after, entry.1 ≠ this)
    (undirected : ∀ entry ∈ before ++ after, entry.2.direct ≠ some id)
    (registered : (g.history before).provider.getAddress id ≠ 0) :
    (g.history (before ++ after)).provider.getAddress id =
        (g.history before).provider.getAddress id ∧
      ∃ proxy, (g.history (before ++ after)).OwnProxy
        ((g.history before).provider.getAddress id) proxy := by
  have unset := deployed_getAddress id start
  obtain ⟨sound, rfl, _⟩ := deployed_eq_ok start
  have outsideBefore := fun entry hentry => outside entry (List.mem_append_left after hentry)
  have undirectedBefore := fun entry hentry => undirected entry (List.mem_append_left after hentry)
  obtain ⟨soundBefore, hthis, _⟩ :=
    history_invariant (fun _ => True) (fun _ _ _ => trivial) sound outsideBefore trivial
  obtain ⟨atBefore, _⟩ := history_getAddress sound outsideBefore undirectedBefore (.inl unset)
  have outsideAfter : ∀ entry ∈ after, entry.1 ≠ (g.history before).this := by
    rw [hthis]
    exact fun entry hentry => outside entry (List.mem_append_right _ hentry)
  have undirectedAfter := fun entry hentry => undirected entry (List.mem_append_right before hentry)
  obtain ⟨soundAfter, _, _⟩ :=
    history_invariant (fun _ => True) (fun _ _ _ => trivial) soundBefore outsideAfter trivial
  obtain ⟨atAfter, stays⟩ := history_getAddress soundBefore outsideAfter undirectedAfter atBefore
  rw [history_append]
  refine ⟨stays registered, ?_⟩
  rw [stays registered] at atAfter
  obtain zero | created := atAfter
  · exact (registered zero).elim
  · exact soundAfter.own _ created

end Governance

/-- What the initializers of LendingPool and of LendingPoolConfigurator write, on whatever the pool
has stored. -/
structure ProxiedStorage where
  addressesProvider : Address
  pool : Address
  lendingPool : LendingPool

/-- LendingPool, LendingPoolTmp and LendingPoolV4. -/
def PoolVersion.code (version : PoolVersion) : VersionedCode ProxiedStorage where
  getRevision := version.revision
  initializeBody argument storage := some { storage with
    addressesProvider := argument.provider
    lendingPool := storage.lendingPool.initializeStorage }

def configuratorCode : VersionedCode ProxiedStorage where
  getRevision := 1
  initializeBody argument storage := some { storage with
    addressesProvider := argument.provider
    pool := argument.getAddress LendingPoolAddressesProvider.LENDING_POOL }

/-- ElectroProtocolDataProvider. Its flags `initialized` and `initializing` are the two lowest bytes
where versioned code has its last revision. -/
def dataProviderExecute : CallData → VersionedStorage ProxiedStorage →
    Option (VersionedStorage ProxiedStorage)
  | .initializeWith argument, store =>
    let flags := store.lastInitializedRevision
    let initializing := flags / 2 ^ 8 % 2 ^ 8 ≠ 0
    if initializing ∨ flags % 2 ^ 8 = 0 then
      some { store with
        lastInitializedRevision := if initializing then flags else flags / 2 ^ 16 * 2 ^ 16 + 1
        body := { store.body with addressesProvider := argument.provider } }
    else none
  | .empty, _ => none

namespace Governance

namespace Launch

def blankStorage : ProxiedStorage :=
  ⟨0, 0, LendingPool.initialized 0 (fun _ => ⟨fun _ => 0, fun _ _ => 0⟩) (fun _ => 0) (fun _ => 0)
    fun _ => false⟩

/-- The provider at 3, deployed by 5 for the owner 7. -/
def providerOnly : Governance ProxiedStorage :=
  ((Governance.deployed 5 blankStorage 3 "market" 7).toOption.getD
    ⟨3, ⟨0, "", fun _ => 0⟩, fun _ => none, blankStorage, []⟩)

/-- The pool is put behind a proxy at 30, the configurator at 31, and a data provider at 32. -/
def launch : List (Address × Transaction ProxiedStorage) :=
  [(5, .deployCode 20 PoolVersion.lendingPool.code), (5, .deployCode 21 PoolVersion.lendingPoolTmp.code),
    (5, .deployCode 22 configuratorCode), (5, .deployUnversioned 23 dataProviderExecute),
    (7, .setLendingPoolImpl 20 30), (7, .setLendingPoolConfiguratorImpl 22 31),
    (7, .setAddressAsProxy "DATA_PROVIDER" 23 32)]

/-- Somebody else tries to take the proxies. -/
def takeover : List (Address × Transaction ProxiedStorage) :=
  [(9, .fallback 30 (.initializeWith ⟨9, fun _ => 9⟩)), (9, .initializeProxy 30 21 .empty),
    (9, .upgradeToAndCall 30 21 (.initializeWith ⟨9, fun _ => 9⟩)), (9, .setLendingPoolImpl 21 33),
    (9, .fallback 32 (.initializeWith ⟨9, fun _ => 9⟩))]

/-- The owner upgrades, and tries to go back. -/
def upgrade : List (Address × Transaction ProxiedStorage) :=
  [(7, .setLendingPoolImpl 21 33), (7, .setLendingPoolImpl 20 33)]

theorem providerOnly_deployed :
    Governance.deployed 5 blankStorage 3 "market" 7 = .ok providerOnly := rfl

end Launch

open Launch in
theorem launched_registered_proxy_stays :
    (providerOnly.history (launch ++ upgrade)).provider.getAddress
        LendingPoolAddressesProvider.LENDING_POOL =
      (providerOnly.history launch).provider.getAddress LendingPoolAddressesProvider.LENDING_POOL ∧
      ∃ proxy, (providerOnly.history (launch ++ upgrade)).OwnProxy
        ((providerOnly.history launch).provider.getAddress
          LendingPoolAddressesProvider.LENDING_POOL) proxy := by
  have outside : ∀ entry ∈ launch ++ upgrade, entry.1 ≠ 3 := by simp [launch, upgrade]
  have undirected : ∀ entry ∈ launch ++ upgrade, entry.2.direct ≠
      some LendingPoolAddressesProvider.LENDING_POOL := by
    simp [launch, upgrade, Transaction.direct]
  exact registered_proxy_stays providerOnly_deployed outside undirected (by decide +kernel)

end Governance

end ElectroLend
