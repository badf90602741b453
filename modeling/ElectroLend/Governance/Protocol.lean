import ElectroLend.Governance.LendingPoolAddressesProvider
import ElectroLend.Pool.RuledRuns
import ElectroLend.Properties.AdminRuns

namespace ElectroLend

open Outcome

/-- The functions of the pool that only its configurator may call. -/
def Call.restricted : Call → Bool
  | .listReserve _ | .setConfiguration _ _ | .setReserveInterestRateStrategy _ _ | .setPause _ => true
  | _ => false

/-- A call that the pool, its tokens or the outside world accept from anybody. -/
abbrev UserCall := { call : Call // call.restricted = false }

inductive ProtocolErrors
  | callerNotPoolAdmin
  | lpcCallerNotEmergencyAdmin
  | lpCallerNotLendingPoolConfigurator
  | pool (e : Errors)
  | provider (e : GovernanceErrors)
  deriving DecidableEq

def ProtocolErrors.message : ProtocolErrors → String
  | callerNotPoolAdmin => "33"
  | lpcCallerNotEmergencyAdmin => "76"
  | lpCallerNotLendingPoolConfigurator => "27"
  | pool e => e.message
  | provider e => e.message

abbrev ProtocolResult (α : Type) := Except ProtocolErrors α

/-- A pool and its configurator, with the provider that both ask for the roles. -/
structure Protocol where
  provider : LendingPoolAddressesProvider
  configurator : Address
  pool : LendingPool

/-- What anybody may send: to the pool, to the configurator (from `configure` on), to the provider. -/
inductive ProtocolCall
  | user (call : UserCall)
  | initReserve (input : LendingPool.InitReserveInput)
  | setReserveInterestRateStrategyAddress (asset : Address)
      (strategy : DefaultReserveInterestRateStrategy)
  | setConfiguration (asset : Address) (configuration : ReserveConfigurationMap)
  | setPause (val : Bool)
  | configure (call : AdminCall)
  | configureInterestRateStrategyAddress (asset : Address)
      (strategy : DefaultReserveInterestRateStrategy)
  | setPoolPause (val : Bool)
  | provide (call : ProviderCall)

namespace Protocol

variable (s : Protocol) (msgSender : Address)

def onlyPoolAdmin : ProtocolResult Unit :=
  require (s.provider.getPoolAdmin = msgSender) .callerNotPoolAdmin

def onlyEmergencyAdmin : ProtocolResult Unit :=
  require (s.provider.getEmergencyAdmin = msgSender) .lpcCallerNotEmergencyAdmin

def onlyLendingPoolConfigurator : ProtocolResult Unit :=
  require (s.provider.getLendingPoolConfigurator = msgSender) .lpCallerNotLendingPoolConfigurator

def onPool (call : LendingPool → Result LendingPool) : ProtocolResult Protocol := do
  let pool ← (call s.pool).mapError .pool
  pure { s with pool }

end Protocol

/-- An empty batch of listings makes no call of the pool. -/
def AdminCall.callsPool : AdminCall → Bool
  | .batchInitReserve [] => false
  | _ => true

namespace Protocol

/-- The pool checks its caller in each call that the configurator makes. -/
def checkConfigurator (s : Protocol) (call : AdminCall) : ProtocolResult Unit :=
  if call.callsPool then s.onlyLendingPoolConfigurator s.configurator else pure ()

/-- A call of `msgSender` in the block of `blockTimestamp`. -/
def exec (s : Protocol) (blockTimestamp : Nat) (msgSender : Address) :
    ProtocolCall → ProtocolResult Protocol
  | .user call => s.onPool (call.1.exec blockTimestamp msgSender)
  | .initReserve input => do
    s.onlyLendingPoolConfigurator msgSender
    s.onPool (·.initReserve input)
  | .setReserveInterestRateStrategyAddress asset strategy => do
    s.onlyLendingPoolConfigurator msgSender
    s.onPool (.ok <| ·.setReserveInterestRateStrategy asset strategy)
  | .setConfiguration asset configuration => do
    s.onlyLendingPoolConfigurator msgSender
    s.onPool (.ok <| ·.setConfiguration asset configuration)
  | .setPause val => do
    s.onlyLendingPoolConfigurator msgSender
    s.onPool (.ok <| ·.setPause val)
  | .configure call => do
    s.onlyPoolAdmin msgSender
    let configured ← s.onPool (AdminCall.exec · call)
    s.checkConfigurator call
    pure configured
  | .configureInterestRateStrategyAddress asset strategy => do
    s.onlyPoolAdmin msgSender
    s.onlyLendingPoolConfigurator s.configurator
    s.onPool (.ok <| ·.setReserveInterestRateStrategy asset strategy)
  | .setPoolPause val => do
    s.onlyEmergencyAdmin msgSender
    s.onlyLendingPoolConfigurator s.configurator
    s.onPool (.ok <| ·.setPause val)
  | .provide call => do
    let provider ← (s.provider.exec msgSender call).mapError .provider
    pure { s with provider }

end Protocol

/-- Who may act, seen from the state that he acts in. -/
abbrev Actors := Protocol → Address → Prop

/-- Successful calls and flash loans of the actors in one block; the receiver of a flash loan may
have calls of every kind made before it returns. -/
inductive ProtocolSteps (acts : Actors) (t : Nat) : Protocol → Protocol → Prop
  | refl (s : Protocol) : ProtocolSteps acts t s s
  | call {start s s' : Protocol} (before : ProtocolSteps acts t start s) (msgSender : Address)
      (call : ProtocolCall) (allowed : acts s msgSender) (success : s.exec t msgSender call = .ok s') :
      ProtocolSteps acts t start s'
  | flashLoan {start s : Protocol} {pool' : LendingPool} {provider' : LendingPoolAddressesProvider}
      (before : ProtocolSteps acts t start s) (msgSender receiver : Address) (assets : List Address)
      (amounts modes : List Nat) (onBehalfOf : Address)
      (executeOperation : LendingPool → Result (Bool × LendingPool)) (allowed : acts s msgSender)
      (callback : ∀ sent answer returned, executeOperation sent = .ok (answer, returned) →
        ProtocolSteps acts t { s with pool := sent } { s with pool := returned, provider := provider' })
      (success : s.pool.flashLoan t .lendingPool msgSender receiver assets amounts modes onBehalfOf
        executeOperation = .ok pool') :
      ProtocolSteps acts t start { s with pool := pool', provider := provider' }

/-- Blocks of steps after the state `s` of time `t`, with the timestamp of the last block. -/
inductive ProtocolLater (acts : Actors) (t : Nat) (s : Protocol) : Nat → Protocol → Prop
  | now : ProtocolLater acts t s t s
  | block {t' t'' : Nat} {s' s'' : Protocol} (before : ProtocolLater acts t s t' s') (later : t' ≤ t'')
      (timestamp : IsBlockTimestamp t'') (steps : ProtocolSteps acts t'' s' s'') :
      ProtocolLater acts t s t'' s''

/-- The runs of a pool in which only some may list and configure, and only some may pause. -/
def Rules.under (mayConfigure mayPause : Prop) : Rules where
  call _ _ call := match call with
    | .listReserve _ | .setConfiguration _ _ | .setReserveInterestRateStrategy _ _ => mayConfigure
    | .setPause _ => mayPause
    | _ => True
  flashLoan _ _ _ := True

namespace LendingPool

variable {pool pool' : LendingPool}

theorem updateConfiguration_eq_ok {asset : Address}
    {change : ReserveConfigurationMap → Result ReserveConfigurationMap}
    (h : pool.updateConfiguration asset change = .ok pool') :
    ∃ configuration, pool' = pool.setConfiguration asset configuration := by
  obtain ⟨configuration, _, hpure⟩ := bind_eq_ok.mp h
  exact ⟨configuration, (pure_eq_ok.mp hpure).symm⟩

end LendingPool

theorem AdminCall.exec_setConfiguration {call : AdminCall} {pool pool' : LendingPool}
    (hlists : call.lists = false) (h : call.exec pool = .ok pool') :
    ∃ asset configuration, pool' = pool.setConfiguration asset configuration := by
  cases call with
  | batchInitReserve input => cases hlists
  | configureReserveAsCollateral asset ltv liquidationThreshold liquidationBonus =>
    obtain ⟨_, _, hupdate⟩ := bind_eq_ok.mp h
    exact ⟨asset, LendingPool.updateConfiguration_eq_ok hupdate⟩
  | deactivateReserve asset =>
    obtain ⟨_, _, hupdate⟩ := bind_eq_ok.mp h
    exact ⟨asset, LendingPool.updateConfiguration_eq_ok hupdate⟩
  | _ =>
    simp only [exec, LendingPool.enableBorrowingOnReserve, LendingPool.disableBorrowingOnReserve,
      LendingPool.enableReserveStableRate, LendingPool.disableReserveStableRate,
      LendingPool.activateReserve, LendingPool.freezeReserve, LendingPool.unfreezeReserve,
      LendingPool.setReserveFactor] at h
    exact ⟨_, LendingPool.updateConfiguration_eq_ok h⟩

theorem Steps.trans {rules : Rules} {t : Nat} {pool pool' pool'' : LendingPool}
    (first : Steps rules t pool pool') (second : Steps rules t pool' pool'') :
    Steps rules t pool pool'' := by
  induction second with
  | refl => exact first
  | call _ msgSender call allowed success ih => exact .call (ih first) msgSender call allowed success
  | flashLoan _ msgSender receiver assets amounts modes onBehalfOf executeOperation allowed callback
      success ih _ =>
    exact .flashLoan (ih first) msgSender receiver assets amounts modes onBehalfOf executeOperation
      allowed callback success

theorem batchInitReserve_steps {mayPause : Prop} {t : Nat} {pool pool' : LendingPool}
    {input : List LendingPool.InitReserveInput} (h : pool.batchInitReserve input = .ok pool')
    (msgSender : Address) : Steps (.under True mayPause) t pool pool' := by
  induction input generalizing pool with
  | nil =>
    cases Except.ok.inj h
    exact .refl _
  | cons first rest ih =>
    obtain ⟨middle, hlist, hrest⟩ := bind_eq_ok.mp h
    have step : Steps (.under True mayPause) t pool middle :=
      .call (.refl _) msgSender (.listReserve first) trivial hlist
    exact step.trans (ih hrest)

theorem AdminCall.exec_steps {mayPause : Prop} {t : Nat} {call : AdminCall}
    {pool pool' : LendingPool} (h : call.exec pool = .ok pool') (msgSender : Address) :
    Steps (.under True mayPause) t pool pool' := by
  cases hlists : call.lists with
  | true =>
    cases call with
    | batchInitReserve input => exact batchInitReserve_steps h msgSender
    | _ => cases hlists
  | false =>
    obtain ⟨asset, configuration, rfl⟩ := AdminCall.exec_setConfiguration hlists h
    exact .call (.refl _) msgSender (.setConfiguration asset configuration) trivial rfl

namespace Protocol

variable {s s' : Protocol} {t t' : Nat} {acts : Actors}

theorem onPool_eq_ok {call : LendingPool → Result LendingPool} (h : s.onPool call = .ok s') :
    ∃ pool', call s.pool = .ok pool' ∧ s' = { s with pool := pool' } := by
  obtain ⟨pool', hcall, hpure⟩ := bind_eq_ok.mp h
  exact ⟨pool', mapError_eq_ok.mp hcall, (pure_eq_ok.mp hpure).symm⟩

/-- What the roles are needed for: to configure, to pause, to change the provider. -/
theorem exec_steps {msgSender : Address} {call : ProtocolCall} (mayConfigure mayPause : Prop)
    (direct : msgSender ≠ s.provider.getLendingPoolConfigurator)
    (poolAdmin : msgSender = s.provider.getPoolAdmin → mayConfigure)
    (emergencyAdmin : msgSender = s.provider.getEmergencyAdmin → mayPause)
    (h : s.exec t msgSender call = .ok s') :
    Steps (.under mayConfigure mayPause) t s.pool s'.pool ∧ s'.configurator = s.configurator ∧
      (s.provider.owner ≠ msgSender → s'.provider = s.provider) := by
  have refused : ∀ {α : Type} {f : Unit → ProtocolResult α} {a : α},
      (s.onlyLendingPoolConfigurator msgSender >>= f) = .ok a → False := by
    intro α f a hrun
    obtain ⟨_, hdirect, _⟩ := bind_eq_ok.mp hrun
    exact direct (require_eq_ok.mp hdirect).symm
  cases call with
  | user call =>
    obtain ⟨call, free⟩ := call
    obtain ⟨pool', hcall, rfl⟩ := onPool_eq_ok h
    refine ⟨.call (.refl _) msgSender call ?_ hcall, rfl, fun _ => rfl⟩
    cases call with
    | listReserve input => cases free
    | setConfiguration asset configuration => cases free
    | setReserveInterestRateStrategy asset strategy => cases free
    | setPause val => cases free
    | _ => trivial
  | initReserve input => exact (refused h).elim
  | setReserveInterestRateStrategyAddress asset strategy => exact (refused h).elim
  | setConfiguration asset configuration => exact (refused h).elim
  | setPause val => exact (refused h).elim
  | configure call =>
    obtain ⟨_, hadmin, h⟩ := bind_eq_ok.mp h
    obtain ⟨configured, hcall, h⟩ := bind_eq_ok.mp h
    obtain ⟨_, _, hpure⟩ := bind_eq_ok.mp h
    obtain rfl := pure_eq_ok.mp hpure
    obtain ⟨pool', hexec, rfl⟩ := onPool_eq_ok hcall
    have granted := poolAdmin (require_eq_ok.mp hadmin).symm
    have steps : Steps (.under True mayPause) t s.pool pool' :=
      AdminCall.exec_steps hexec s.configurator
    rw [eq_true granted]
    exact ⟨steps, rfl, fun _ => rfl⟩
  | configureInterestRateStrategyAddress asset strategy =>
    obtain ⟨_, hadmin, h⟩ := bind_eq_ok.mp h
    obtain ⟨_, _, hcall⟩ := bind_eq_ok.mp h
    obtain ⟨pool', hexec, rfl⟩ := onPool_eq_ok hcall
    have granted := poolAdmin (require_eq_ok.mp hadmin).symm
    exact ⟨.call (.refl _) s.configurator (.setReserveInterestRateStrategy asset strategy) granted
      hexec, rfl, fun _ => rfl⟩
  | setPoolPause val =>
    obtain ⟨_, hadmin, h⟩ := bind_eq_ok.mp h
    obtain ⟨_, _, hcall⟩ := bind_eq_ok.mp h
    obtain ⟨pool', hexec, rfl⟩ := onPool_eq_ok hcall
    have granted := emergencyAdmin (require_eq_ok.mp hadmin).symm
    exact ⟨.call (.refl _) s.configurator (.setPause val) granted hexec, rfl, fun _ => rfl⟩
  | provide call =>
    obtain ⟨provider, hcall, hpure⟩ := bind_eq_ok.mp h
    obtain rfl := pure_eq_ok.mp hpure
    refine ⟨.refl _, rfl, ?_⟩
    intro outsider
    exact (outsider (LendingPoolAddressesProvider.exec_onlyOwner (mapError_eq_ok.mp hcall))).elim

end Protocol

end ElectroLend
