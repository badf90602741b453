import ElectroLend.Governance.LendingPoolAddressesProvider

namespace ElectroLend

open Outcome

open LendingPoolAddressesProvider in
/-- The id that a call writes. -/
def ProviderCall.writes : ProviderCall → Option Bytes32
  | .setAddress id _ => some id
  | .setLendingPoolCollateralManager _ => some LENDING_POOL_COLLATERAL_MANAGER
  | .setPoolAdmin _ => some POOL_ADMIN
  | .setEmergencyAdmin _ => some EMERGENCY_ADMIN
  | .setPriceOracle _ => some PRICE_ORACLE
  | .setLendingRateOracle _ => some LENDING_RATE_ORACLE
  | _ => none

theorem LendingPoolAddressesProvider.exec_getAddress {provider provider' : LendingPoolAddressesProvider}
    {msgSender : Address} {call : ProviderCall} {id : Bytes32} (unwritten : call.writes ≠ some id)
    (h : provider.exec msgSender call = .ok provider') :
    provider'.getAddress id = provider.getAddress id := by
  have assigned : ∀ {written : Bytes32} {newAddress : Address},
      call.writes = some written → provider.setAddress msgSender written newAddress = .ok provider' →
      provider'.getAddress id = provider.getAddress id := by
    intro written newAddress hwrites hset
    simp only [setAddress, bind_eq_ok, pure_eq_ok] at hset
    obtain ⟨_, _, rfl⟩ := hset
    have hne : id ≠ written := by
      rintro rfl
      exact unwritten hwrites
    simp [getAddress, withAddress, hne]
  cases call with
  | transferOwnership newOwner =>
    simp only [exec, transferOwnership, bind_eq_ok, pure_eq_ok] at h
    obtain ⟨_, _, _, _, rfl⟩ := h
    rfl
  | renounceOwnership =>
    simp only [exec, renounceOwnership, bind_eq_ok, pure_eq_ok] at h
    obtain ⟨_, _, rfl⟩ := h
    rfl
  | setMarketId marketId =>
    simp only [exec, setMarketId, bind_eq_ok, pure_eq_ok] at h
    obtain ⟨_, _, rfl⟩ := h
    rfl
  | _ => exact assigned rfl h

namespace Transaction

variable {σ : Type}

/-- The id that a transaction assigns an address to. -/
def direct : Transaction σ → Option Bytes32
  | .provide call => call.writes
  | _ => none

/-- The id and the implementation that an upgrade is about. -/
def upgrade : Transaction σ → Option (Bytes32 × Address)
  | .setAddressAsProxy id implementationAddress _ => some (id, implementationAddress)
  | .setLendingPoolImpl pool _ => some (LendingPoolAddressesProvider.LENDING_POOL, pool)
  | .setLendingPoolConfiguratorImpl configurator _ =>
    some (LendingPoolAddressesProvider.LENDING_POOL_CONFIGURATOR, configurator)
  | _ => none

end Transaction

namespace Governance

variable {σ : Type} {g g' : Governance σ} {msgSender p : Address}

/-- The revision of the code at an address. -/
def revisionAt (g : Governance σ) (a : Address) : Nat :=
  match g.contracts a with
  | some (.versioned code) => code.getRevision
  | _ => 0

/-- The proxies that the provider has created. -/
def Created (g : Governance σ) (p : Address) : Prop := ∃ id, (id, p) ∈ g.proxyCreated

/-- A proxy of the provider, which is its admin; it runs some contract. -/
structure OwnProxy (g : Governance σ) (p : Address) (proxy : UpgradeabilityProxy σ) : Prop where
  contract : g.contracts p = some (.proxy proxy)
  admin : proxy.ADMIN = g.this
  present : (g.contracts proxy.implementation).isSome = true

/-- The proxy runs the versioned code that has initialized it last, which was given the provider. -/
structure Initialized (g : Governance σ) (proxy : UpgradeabilityProxy σ) : Prop where
  initializing : proxy.store.initializing = false
  runs : ∃ code, g.contracts proxy.implementation = some (.versioned code) ∧
    code.getRevision = proxy.store.lastInitializedRevision ∧
    ∃ argument body, argument.provider = g.this ∧
      code.initializeBody argument body = some proxy.store.body

/-- The code at an address has revisions. -/
def Versioned (g : Governance σ) (a : Address) : Prop :=
  ∃ code, g.contracts a = some (.versioned code)

structure Sound (g : Governance σ) : Prop where
  zero : g.contracts 0 = none
  own : ∀ p, g.Created p → ∃ proxy, g.OwnProxy p proxy

/-- What is at an address stays there: code as it is, and a proxy as a proxy. -/
inductive Stays : Option (Contract σ) → Option (Contract σ) → Prop
  | free (after : Option (Contract σ)) : Stays none after
  | same (there : Option (Contract σ)) : Stays there there
  | proxy (before after : UpgradeabilityProxy σ) :
      Stays (some (.proxy before)) (some (.proxy after))

theorem Stays.trans {before between after : Option (Contract σ)} (first : Stays before between)
    (second : Stays between after) : Stays before after := by
  cases first with
  | free => exact .free _
  | same => exact second
  | proxy =>
    cases second with
    | same => exact .proxy _ _
    | proxy => exact .proxy _ _

theorem Stays.versioned {before after : Option (Contract σ)} {code : VersionedCode σ}
    (stays : Stays before after) (present : before.isSome = true) :
    after = some (.versioned code) ↔ before = some (.versioned code) := by
  cases stays with
  | free => cases present
  | same => exact Iff.rfl
  | proxy => simp

theorem Stays.present {before after : Option (Contract σ)} (stays : Stays before after)
    (present : before.isSome = true) : after.isSome = true := by
  cases stays with
  | free => cases present
  | same => exact present
  | proxy => rfl

/-- Deployed code stays where it is. -/
def CodeKept (g g' : Governance σ) : Prop := ∀ a, Stays (g.contracts a) (g'.contracts a)

theorem CodeKept.trans {middle : Governance σ} (first : g.CodeKept middle)
    (second : middle.CodeKept g') : g.CodeKept g' :=
  fun a => (first a).trans (second a)

theorem CodeKept.versioned (kept : g.CodeKept g') {a : Address} {code : VersionedCode σ}
    (hcode : g.contracts a = some (.versioned code)) : g'.contracts a = some (.versioned code) :=
  ((kept a).versioned (by rw [hcode]; rfl)).mpr hcode

theorem CodeKept.revisionAt (kept : g.CodeKept g') {a : Address} {code : VersionedCode σ}
    (hcode : g.contracts a = some (.versioned code)) : g'.revisionAt a = code.getRevision := by
  rw [Governance.revisionAt, kept.versioned hcode]

theorem Initialized.settled {proxy : UpgradeabilityProxy σ} (initialized : g.Initialized proxy) :
    proxy.Settled g.contracts := by
  obtain ⟨code, hcode, hrevision, _⟩ := initialized.runs
  exact ⟨initialized.initializing, code, hcode, hrevision⟩

theorem Initialized.kept {proxy : UpgradeabilityProxy σ} (initialized : g.Initialized proxy)
    (this : g'.this = g.this) (kept : g.CodeKept g') : g'.Initialized proxy := by
  obtain ⟨_, hcode, hrevision, argument, body, hprovider, hbody⟩ := initialized.runs
  exact ⟨initialized.initializing, _, kept.versioned hcode, hrevision, argument, body,
    hprovider.trans this.symm, hbody⟩

theorem OwnProxy.kept {proxy : UpgradeabilityProxy σ} (own : g.OwnProxy p proxy)
    (this : g'.this = g.this) (kept : g.CodeKept g') (same : g'.contracts p = g.contracts p) :
    g'.OwnProxy p proxy :=
  ⟨same.trans own.contract, own.admin.trans this.symm, (kept _).present own.present⟩

theorem OwnProxy.implementation_ne {proxy : UpgradeabilityProxy σ} (own : g.OwnProxy p proxy)
    (zero : g.contracts 0 = none) : proxy.implementation ≠ 0 := by
  intro hz
  have present := own.present
  rw [hz, zero] at present
  cases present

theorem create_eq_ok {created : Address} {contract : Contract σ}
    (h : g.create created contract = .ok g') :
    created ≠ 0 ∧ g.contracts created = none ∧ g' = g.setContract created contract := by
  simp only [create, bind_eq_ok, require_eq_ok, pure_eq_ok, Option.isNone_iff_eq_none] at h
  obtain ⟨_, ⟨hne, free⟩, rfl⟩ := h
  exact ⟨hne, free, rfl⟩

theorem callProxy_eq_ok {a : Address}
    {call : UpgradeabilityProxy σ → GovernanceResult (UpgradeabilityProxy σ)}
    (h : g.callProxy a call = .ok g') :
    ∃ proxy proxy', g.contracts a = some (.proxy proxy) ∧ call proxy = .ok proxy' ∧
      g' = g.setContract a (.proxy proxy') := by
  unfold callProxy at h
  split at h
  next proxy hproxy =>
    obtain ⟨proxy', hcall, hpure⟩ := bind_eq_ok.mp h
    exact ⟨proxy, proxy', hproxy, hcall, (pure_eq_ok.mp hpure).symm⟩
  next => cases h

/-- Only what is at one address has changed, and it stays what it was. -/
structure ChangedAt (g g' : Governance σ) (a : Address) : Prop where
  this : g'.this = g.this
  nonzero : a ≠ 0
  stays : Stays (g.contracts a) (g'.contracts a)
  contracts : ∀ b, b ≠ a → g'.contracts b = g.contracts b

theorem ChangedAt.codeKept {a : Address} (changed : g.ChangedAt g' a) : g.CodeKept g' := by
  intro b
  by_cases hb : b = a
  · subst hb
    exact changed.stays
  · rw [changed.contracts b hb]
    exact .same _

theorem setContract_changedAt {a : Address} {contract : Contract σ} (nonzero : a ≠ 0)
    (stays : Stays (g.contracts a) (some contract)) : g.ChangedAt (g.setContract a contract) a where
  this := rfl
  nonzero := nonzero
  stays := by simpa [setContract] using stays
  contracts := fun b hb => by simp [setContract, hb]

theorem create_changedAt {created : Address} {contract : Contract σ}
    (h : g.create created contract = .ok g') : g.ChangedAt g' created := by
  obtain ⟨hne, free, rfl⟩ := create_eq_ok h
  exact setContract_changedAt hne (free ▸ .free _)

theorem setProxy_changedAt {a : Address} {proxy : UpgradeabilityProxy σ} (nonzero : a ≠ 0)
    (hproxy : g.contracts a = some (.proxy proxy)) (proxy' : UpgradeabilityProxy σ) :
    g.ChangedAt (g.setContract a (.proxy proxy')) a :=
  setContract_changedAt nonzero (hproxy ▸ .proxy proxy proxy')

theorem Sound.proxy_ne_zero (sound : g.Sound) {a : Address} {proxy : UpgradeabilityProxy σ}
    (hproxy : g.contracts a = some (.proxy proxy)) : a ≠ 0 := by
  rintro rfl
  rw [sound.zero] at hproxy
  cases hproxy

theorem Sound.created_ne_none (sound : g.Sound) (created : g.Created p) : g.contracts p ≠ none := by
  obtain ⟨proxy, own⟩ := sound.own p created
  simp [own.contract]

/-- What a transaction may do, apart from what the owner does to the provider's own storage: it changes
a contract that is no proxy of the provider, it lets the code behind such a proxy write the storage,
it makes an upgrade, or it creates a proxy. -/
inductive Effect (g : Governance σ) : Option (Bytes32 × Address) → Governance σ → Prop
  | provider (provider : LendingPoolAddressesProvider) : Effect g none { g with provider }
  | foreign {upgrade : Option (Bytes32 × Address)} {a : Address} {contract : Contract σ}
      (changed : g.ChangedAt (g.setContract a contract) a) (foreign : ¬ g.Created a)
      (present : ∀ id implementation, upgrade = some (id, implementation) →
        g.contracts a ≠ none ∧ g.provider.getAddress id = a) :
      Effect g upgrade (g.setContract a contract)
  | written {a : Address} {data : CallData} {proxy proxy' : UpgradeabilityProxy σ}
      (own : g.OwnProxy a proxy) (admin : proxy'.ADMIN = proxy.ADMIN)
      (implementation : proxy'.implementation = proxy.implementation)
      (called : delegatecall (g.contracts proxy.implementation) data proxy.store =
        .ok proxy'.store) : Effect g none (g.setContract a (.proxy proxy'))
  | upgrade {id : Bytes32} {implementation : Address} {argument : ProviderArgument}
      {proxy proxy' : UpgradeabilityProxy σ}
      (own : g.OwnProxy (g.provider.getAddress id) proxy) (given : argument.provider = g.this)
      (upgraded : proxy.Upgraded g.contracts implementation argument proxy') :
      Effect g (some (id, implementation))
        (g.setContract (g.provider.getAddress id) (.proxy proxy'))
  | create {id : Bytes32} {implementation created : Address} {argument : ProviderArgument}
      {proxy' : UpgradeabilityProxy σ}
      (unset : g.provider.getAddress id = 0) (nonzero : created ≠ 0)
      (free : g.contracts created = none) (given : argument.provider = g.this)
      (upgraded : (UpgradeabilityProxy.deployed g.blank g.this).Upgraded g.contracts implementation
        argument proxy') :
      Effect g (some (id, implementation))
        { g.setContract created (.proxy proxy') with
          provider := g.provider.withAddress id created
          proxyCreated := g.proxyCreated ++ [(id, created)] }

theorem create_effect (sound : g.Sound) {created : Address} {contract : Contract σ}
    (h : g.create created contract = .ok g') : g.Effect none g' := by
  have changed := create_changedAt h
  obtain ⟨_, free, rfl⟩ := create_eq_ok h
  refine .foreign changed (fun hcreated => sound.created_ne_none hcreated free) ?_
  rintro id implementation ⟨⟩

theorem callProxy_effect (sound : g.Sound) {a : Address}
    {call : UpgradeabilityProxy σ → GovernanceResult (UpgradeabilityProxy σ)}
    (h : g.callProxy a call = .ok g')
    (writes : ∀ proxy proxy', g.OwnProxy a proxy → call proxy = .ok proxy' →
      ∃ msgSender data, proxy.fallback g.contracts msgSender data = .ok proxy') :
    g.Effect none g' := by
  obtain ⟨proxy, proxy', hproxy, hcall, rfl⟩ := callProxy_eq_ok h
  by_cases hcreated : g.Created a
  · obtain ⟨own, howns⟩ := sound.own a hcreated
    have same := howns.contract.symm.trans hproxy
    cases same
    obtain ⟨msgSender, data, hfallback⟩ := writes _ proxy' howns hcall
    obtain ⟨admin, implementation, called⟩ := UpgradeabilityProxy.fallback_eq_ok hfallback
    exact .written howns admin implementation called
  · refine .foreign (setProxy_changedAt (sound.proxy_ne_zero hproxy) hproxy proxy') hcreated ?_
    rintro id implementation ⟨⟩

theorem updateImpl_effect (sound : g.Sound) {id : Bytes32} {newAddress created : Address}
    (h : g.updateImpl id newAddress created = .ok g') : g.Effect (some (id, newAddress)) g' := by
  simp only [updateImpl] at h
  split at h
  next unset =>
    obtain ⟨proxy', hinit, h⟩ := bind_eq_ok.mp h
    obtain ⟨middle, hcreate, hpure⟩ := bind_eq_ok.mp h
    obtain ⟨nonzero, free, rfl⟩ := create_eq_ok hcreate
    obtain rfl := pure_eq_ok.mp hpure
    exact .create unset nonzero free rfl (UpgradeabilityProxy.initializeProxy_eq_ok hinit)
  next =>
    obtain ⟨proxy, proxy', hproxy, hcall, rfl⟩ := callProxy_eq_ok h
    by_cases hcreated : g.Created (g.provider.getAddress id)
    · obtain ⟨own, howns⟩ := sound.own _ hcreated
      rw [howns.contract] at hproxy
      cases hproxy
      rw [← howns.admin] at hcall
      exact .upgrade howns howns.admin (UpgradeabilityProxy.upgradeToAndCall_eq_ok hcall)
    · refine .foreign (setProxy_changedAt (sound.proxy_ne_zero hproxy) hproxy proxy') hcreated ?_
      rintro _ _ ⟨⟩
      exact ⟨by simp [hproxy], rfl⟩

theorem ifAdmin_falls_back {proxy proxy' : UpgradeabilityProxy σ} (own : g.OwnProxy p proxy)
    (outside : msgSender ≠ g.this) {action : GovernanceResult (UpgradeabilityProxy σ)}
    (h : proxy.ifAdmin g.contracts msgSender action = .ok proxy') :
    proxy.fallback g.contracts msgSender .empty = .ok proxy' := by
  have hadmin : msgSender ≠ proxy.ADMIN := by
    rw [own.admin]
    exact outside
  rwa [UpgradeabilityProxy.ifAdmin, if_neg hadmin] at h

theorem exec_effect (sound : g.Sound) (outside : msgSender ≠ g.this) {transaction : Transaction σ}
    (h : g.exec msgSender transaction = .ok g') : g.Effect transaction.upgrade g' := by
  cases transaction with
  | provide call =>
    obtain ⟨provider, _, hpure⟩ := bind_eq_ok.mp h
    obtain rfl := pure_eq_ok.mp hpure
    exact .provider provider
  | setAddressAsProxy id implementationAddress created =>
    obtain ⟨_, _, hupdate⟩ := bind_eq_ok.mp h
    exact updateImpl_effect sound hupdate
  | setLendingPoolImpl pool created =>
    obtain ⟨_, _, hupdate⟩ := bind_eq_ok.mp h
    exact updateImpl_effect sound hupdate
  | setLendingPoolConfiguratorImpl configurator created =>
    obtain ⟨_, _, hupdate⟩ := bind_eq_ok.mp h
    exact updateImpl_effect sound hupdate
  | initializeProxy proxyAddress logic data =>
    refine callProxy_effect sound h ?_
    intro proxy proxy' own hinit
    obtain ⟨_, hzero, _⟩ := bind_eq_ok.mp hinit
    exact (own.implementation_ne sound.zero (require_eq_ok.mp hzero)).elim
  | upgradeTo proxyAddress newImplementation =>
    exact callProxy_effect sound h fun _ _ own hcall =>
      ⟨msgSender, .empty, ifAdmin_falls_back own outside hcall⟩
  | upgradeToAndCall proxyAddress newImplementation data =>
    exact callProxy_effect sound h fun _ _ own hcall =>
      ⟨msgSender, .empty, ifAdmin_falls_back own outside hcall⟩
  | fallback proxyAddress data =>
    exact callProxy_effect sound h fun _ _ _ hcall => ⟨msgSender, data, hcall⟩
  | deployCode created code => exact create_effect sound h
  | deployUnversioned created execute => exact create_effect sound h
  | deployProxy created admin => exact create_effect sound h

namespace Effect

variable {upgrade : Option (Bytes32 × Address)}

theorem this (effect : g.Effect upgrade g') : g'.this = g.this := by
  cases effect with
  | _ => rfl

theorem codeKept (effect : g.Effect upgrade g') : g.CodeKept g' := by
  have set : ∀ {a : Address} {contract : Contract σ}, Stays (g.contracts a) (some contract) →
      ∀ b, Stays (g.contracts b) ((g.setContract a contract).contracts b) := by
    intro a contract stays b
    by_cases hb : b = a
    · subst hb
      simpa [setContract] using stays
    · simpa [setContract, hb] using .same (g.contracts b)
  cases effect with
  | provider provider => exact fun _ => .same _
  | foreign changed foreign present => exact changed.codeKept
  | written own admin implementation called => exact set (own.contract ▸ .proxy _ _)
  | upgrade own given upgraded => exact set (own.contract ▸ .proxy _ _)
  | create unset nonzero free given upgraded => exact set (free ▸ .free _)

end Effect

/-- A successful transaction is an upgrade of what is at `p`, to `implementation`. -/
def UpgradeAt (g' : Governance σ) (p : Address) (upgrade : Option (Bytes32 × Address))
    (implementation : Address) : Prop :=
  ∃ id, upgrade = some (id, implementation) ∧ g'.provider.getAddress id = p

theorem upgraded_own {proxy proxy' : UpgradeabilityProxy σ} {implementation : Address}
    {argument : ProviderArgument} (this : g'.this = g.this) (kept : g.CodeKept g')
    (hp : g'.contracts p = some (.proxy proxy')) (admin : proxy.ADMIN = g.this)
    (upgraded : proxy.Upgraded g.contracts implementation argument proxy') :
    g'.OwnProxy p proxy' := by
  refine ⟨hp, ?_, ?_⟩
  · rw [upgraded.admin, admin, this]
  · rw [upgraded.implementation]
    exact (kept _).present upgraded.present

theorem upgraded_initialized {proxy proxy' : UpgradeabilityProxy σ} {implementation : Address}
    {argument : ProviderArgument} (this : g'.this = g.this) (kept : g.CodeKept g')
    (given : argument.provider = g.this)
    (upgraded : proxy.Upgraded g.contracts implementation argument proxy')
    (settled : proxy.store.initializing = false) (versioned : g'.Versioned implementation) :
    proxy.store.lastInitializedRevision < proxy'.store.lastInitializedRevision ∧
      g'.Initialized proxy' := by
  obtain ⟨code, hcode'⟩ := versioned
  have hcode := ((kept implementation).versioned upgraded.present).mp hcode'
  obtain ⟨later, body, hbody, hstore⟩ := upgraded.versioned hcode settled
  rw [hstore]
  refine ⟨later, by rw [hstore], code, ?_, by rw [hstore], argument, proxy.store.body, ?_, ?_⟩
  · rw [upgraded.implementation]
    exact hcode'
  · rw [given, this]
  · rw [hstore]
    exact hbody

/-- The proxy at an address keeps its implementation, and its storage where its initializer has run. -/
structure Unmoved (g g' : Governance σ) (p : Address) (proxy proxy' : UpgradeabilityProxy σ) :
    Prop where
  own : g'.OwnProxy p proxy'
  implementation : proxy'.implementation = proxy.implementation
  store : g.Initialized proxy → proxy' = proxy

/-- The proxy at an address has been given an implementation, and where that has revisions a later
one than before. -/
structure Moved (g' : Governance σ) (p implementation : Address)
    (proxy proxy' : UpgradeabilityProxy σ) : Prop where
  own : g'.OwnProxy p proxy'
  runs : proxy'.implementation = implementation
  later : proxy.store.initializing = false → g'.Versioned implementation →
    proxy.store.lastInitializedRevision < proxy'.store.lastInitializedRevision ∧
      g'.Initialized proxy'

theorem Effect.own {upgrade : Option (Bytes32 × Address)} {proxy : UpgradeabilityProxy σ}
    (effect : g.Effect upgrade g') (created : g.Created p) (own : g.OwnProxy p proxy) :
    g'.Created p ∧ ∃ proxy', (g.Unmoved g' p proxy proxy' ∧
        ∀ implementation, ¬ g'.UpgradeAt p upgrade implementation) ∨
      ∃ implementation, g'.UpgradeAt p upgrade implementation ∧
        g'.Moved p implementation proxy proxy' := by
  have this := effect.this
  have kept := effect.codeKept
  have stays : g'.contracts p = g.contracts p → g.Unmoved g' p proxy proxy :=
    fun same => ⟨own.kept this kept same, rfl, fun _ => rfl⟩
  cases effect with
  | provider provider =>
    refine ⟨created, proxy, .inl ⟨stays rfl, ?_⟩⟩
    rintro implementation ⟨id, ⟨⟩, _⟩
  | @foreign _ a contract changed foreign present =>
    have hne : p ≠ a := by
      rintro rfl
      exact foreign created
    refine ⟨created, proxy, .inl ⟨stays (changed.contracts p hne), ?_⟩⟩
    rintro implementation ⟨id, hupgrade, hp⟩
    obtain ⟨_, ha⟩ := present id implementation hupgrade
    exact hne (hp.symm.trans ha)
  | @written a data before proxy' before_own admin implementation called =>
    have none : ∀ implementation, ¬(g.setContract a (.proxy proxy')).UpgradeAt p Option.none
        implementation := by
      rintro implementation ⟨id, ⟨⟩, _⟩
    by_cases hp : p = a
    · subst hp
      obtain rfl : before = proxy := by
        have same := before_own.contract.symm.trans own.contract
        cases same
        rfl
      refine ⟨created, proxy', .inl ⟨⟨⟨by simp [setContract], admin.trans own.admin, ?_⟩,
        implementation, fun initialized => ?_⟩, none⟩⟩
      · rw [implementation]
        exact (kept _).present own.present
      · exact (initialized.settled.delegatecall_fails called).elim
    · exact ⟨created, proxy, .inl ⟨stays (by simp [setContract, hp]), none⟩⟩
  | @upgrade id implementation argument before proxy' before_own given upgraded =>
    by_cases hp : p = g.provider.getAddress id
    · subst hp
      obtain rfl : before = proxy := by
        have same := before_own.contract.symm.trans own.contract
        cases same
        rfl
      refine ⟨created, proxy', .inr ⟨implementation, ⟨id, rfl, rfl⟩, ?_, upgraded.implementation,
        upgraded_initialized this kept given upgraded⟩⟩
      exact upgraded_own this kept (by simp [setContract]) own.admin upgraded
    · refine ⟨created, proxy, .inl ⟨stays (by simp [setContract, hp]), ?_⟩⟩
      rintro implementation ⟨id', hupgrade, hp'⟩
      cases hupgrade
      exact hp hp'.symm
  | @create id implementation fresh argument proxy' unset nonzero free given upgraded =>
    have hne : p ≠ fresh := by
      rintro rfl
      rw [own.contract] at free
      cases free
    obtain ⟨id', hid⟩ := created
    refine ⟨⟨id', List.mem_append_left _ hid⟩, proxy,
      .inl ⟨stays (by simp [setContract, hne]), ?_⟩⟩
    rintro implementation ⟨id'', hupgrade, hp⟩
    cases hupgrade
    have hfresh : (g.provider.withAddress id fresh).getAddress id = fresh := by
      simp [LendingPoolAddressesProvider.getAddress, LendingPoolAddressesProvider.withAddress]
    exact hne (hp.symm.trans hfresh)

/-- At an address that nothing was at, there is nothing after it, something that is never the
provider's, or the proxy that the upgrade has created. -/
theorem Effect.free {upgrade : Option (Bytes32 × Address)} (sound : g.Sound)
    (effect : g.Effect upgrade g') (free : g.contracts p = none) :
    (g'.contracts p = none ∧ ∀ implementation, ¬ g'.UpgradeAt p upgrade implementation) ∨
      (g'.contracts p ≠ none ∧ ¬ g'.Created p) ∨
      (g'.Created p ∧ ∃ implementation proxy', g'.UpgradeAt p upgrade implementation ∧
        g'.Moved p implementation (UpgradeabilityProxy.deployed g.blank g.this) proxy') := by
  have this := effect.this
  have kept := effect.codeKept
  have unused : ¬ g.Created p := fun created => sound.created_ne_none created free
  cases effect with
  | provider provider =>
    refine .inl ⟨free, ?_⟩
    rintro implementation ⟨id, ⟨⟩, _⟩
  | @foreign _ a contract changed foreign present =>
    by_cases hpa : p = a
    · subst hpa
      exact .inr (.inl ⟨by simp [setContract], unused⟩)
    · refine .inl ⟨by simp [setContract, hpa, free], ?_⟩
      rintro implementation ⟨id, hupgrade, hp⟩
      obtain ⟨_, ha⟩ := present id implementation hupgrade
      exact hpa (hp.symm.trans ha)
  | @written a data before proxy' before_own admin implementation called =>
    have hne : p ≠ a := by
      rintro rfl
      rw [before_own.contract] at free
      cases free
    refine .inl ⟨by simp [setContract, hne, free], ?_⟩
    rintro implementation ⟨id, ⟨⟩, _⟩
  | @upgrade id implementation argument before proxy' before_own given upgraded =>
    have hne : p ≠ g.provider.getAddress id := by
      rintro rfl
      rw [before_own.contract] at free
      cases free
    refine .inl ⟨by simp [setContract, hne, free], ?_⟩
    rintro implementation ⟨id', hupgrade, hp⟩
    cases hupgrade
    exact hne hp.symm
  | @create id implementation fresh argument proxy' unset nonzero hfree given upgraded =>
    have hfresh : (g.provider.withAddress id fresh).getAddress id = fresh := by
      simp [LendingPoolAddressesProvider.getAddress, LendingPoolAddressesProvider.withAddress]
    by_cases hp : p = fresh
    · subst hp
      refine .inr (.inr ⟨⟨id, by simp⟩, implementation, proxy', ⟨id, rfl, hfresh⟩, ?_,
        upgraded.implementation, upgraded_initialized this kept given upgraded⟩)
      exact upgraded_own this kept (by simp [setContract]) rfl upgraded
    · refine .inl ⟨by simp [setContract, hp, free], ?_⟩
      rintro implementation ⟨id', hupgrade, hp'⟩
      cases hupgrade
      exact hp (hp'.symm.trans hfresh)

theorem Effect.foreign_stays {upgrade : Option (Bytes32 × Address)} (effect : g.Effect upgrade g')
    (present : g.contracts p ≠ none) (unused : ¬ g.Created p) :
    g'.contracts p ≠ none ∧ ¬ g'.Created p := by
  have updated : ∀ {a : Address} {contract : Contract σ},
      (g.setContract a contract).contracts p ≠ none := by
    intro a contract
    by_cases hp : p = a
    · simp [setContract, hp]
    · simpa [setContract, hp] using present
  cases effect with
  | provider provider => exact ⟨present, unused⟩
  | foreign changed foreign present => exact ⟨updated, unused⟩
  | written own admin implementation called => exact ⟨updated, unused⟩
  | upgrade own given upgraded => exact ⟨updated, unused⟩
  | @create id implementation fresh argument proxy' unset nonzero free given upgraded =>
    refine ⟨updated, ?_⟩
    rintro ⟨id', hid⟩
    obtain hid | hid := List.mem_append.mp hid
    · exact unused ⟨id', hid⟩
    · obtain ⟨rfl, rfl⟩ := Prod.mk.inj (List.mem_singleton.mp hid)
      exact present free

theorem Effect.zero {upgrade : Option (Bytes32 × Address)} (effect : g.Effect upgrade g')
    (zero : g.contracts 0 = none) : g'.contracts 0 = none := by
  have proxied : ∀ {a : Address} {proxy : UpgradeabilityProxy σ}, g.OwnProxy a proxy → 0 ≠ a := by
    rintro a proxy own rfl
    have contract := own.contract
    rw [zero] at contract
    cases contract
  cases effect with
  | provider provider => exact zero
  | foreign changed foreign present => simpa [setContract, changed.nonzero.symm] using zero
  | written own admin implementation called => simpa [setContract, proxied own] using zero
  | upgrade own given upgraded => simpa [setContract, proxied own] using zero
  | create unset nonzero free given upgraded => simpa [setContract, nonzero.symm] using zero

theorem Effect.sound {upgrade : Option (Bytes32 × Address)} (effect : g.Effect upgrade g')
    (sound : g.Sound) : g'.Sound := by
  refine ⟨effect.zero sound.zero, ?_⟩
  intro p created
  by_cases before : g.Created p
  · obtain ⟨proxy, own⟩ := sound.own p before
    obtain ⟨_, proxy', ⟨kept, _⟩ | ⟨_, _, moved⟩⟩ := effect.own before own
    · exact ⟨proxy', kept.own⟩
    · exact ⟨proxy', moved.own⟩
  · by_cases free : g.contracts p = none
    · obtain ⟨none, _⟩ | ⟨_, unused⟩ | ⟨_, _, proxy', _, moved⟩ := effect.free sound free
      · obtain ⟨id, hid⟩ := created
        cases effect with
        | create unset nonzero hfree given upgraded =>
          obtain hid | hid := List.mem_append.mp hid
          · exact (before ⟨id, hid⟩).elim
          · obtain ⟨rfl, rfl⟩ := Prod.mk.inj (List.mem_singleton.mp hid)
            simp [setContract] at none
        | _ => exact (before ⟨id, hid⟩).elim
      · exact (unused created).elim
      · exact ⟨proxy', moved.own⟩
    · exact ((effect.foreign_stays free before).2 created).elim

theorem history_cons {transaction : Transaction σ} {rest : List (Address × Transaction σ)} :
    g.history ((msgSender, transaction) :: rest) =
      ((g.exec msgSender transaction).toOption.getD g).history rest := by
  rw [history]
  cases g.exec msgSender transaction with
  | error e => rfl
  | ok g' => rfl

theorem history_append {before after : List (Address × Transaction σ)} :
    g.history (before ++ after) = (g.history before).history after := by
  induction before generalizing g with
  | nil => rfl
  | cons first before ih =>
    obtain ⟨msgSender, transaction⟩ := first
    rw [List.cons_append, history_cons, history_cons, ih]

/-- An invariant of every effect is one of a history. -/
theorem history_invariant (P : Governance σ → Prop)
    (step : ∀ {g g' : Governance σ} {upgrade}, g.Sound → g.Effect upgrade g' → P g → P g')
    {transactions : List (Address × Transaction σ)} (sound : g.Sound)
    (outside : ∀ entry ∈ transactions, entry.1 ≠ g.this) (start : P g) :
    (g.history transactions).Sound ∧ (g.history transactions).this = g.this ∧
      P (g.history transactions) := by
  induction transactions generalizing g with
  | nil => exact ⟨sound, rfl, start⟩
  | cons first rest ih =>
    obtain ⟨msgSender, transaction⟩ := first
    have others := fun entry hentry => outside entry (List.mem_cons_of_mem _ hentry)
    cases hexec : g.exec msgSender transaction with
    | error e =>
      simp only [history, hexec]
      exact ih sound others start
    | ok g' =>
      have effect := exec_effect sound (outside _ List.mem_cons_self) hexec
      have others' : ∀ entry ∈ rest, entry.1 ≠ g'.this := by
        rw [effect.this]
        exact others
      obtain ⟨hsound, hthis, hP⟩ := ih (effect.sound sound) others' (step sound effect start)
      simp only [history, hexec]
      exact ⟨hsound, hthis.trans effect.this, hP⟩

end Governance

end ElectroLend
