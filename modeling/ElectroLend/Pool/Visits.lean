import ElectroLend.Pool.Writes

namespace ElectroLend

open Outcome

open LendingPool

variable {pool pool' : LendingPool} {t : Nat} {msgSender : Address}

/-- The events of a call. -/
def Call.events (msgSender : Address) : Call → List Event
  | borrow asset amount interestRateMode onBehalfOf =>
    match InterestRateMode.fromNat interestRateMode with
    | .ok mode => Event.openedBy asset mode msgSender onBehalfOf amount
    | .error _ => []
  | approveStableDelegation asset delegatee amount =>
    [.approved asset .stable msgSender delegatee amount]
  | approveVariableDelegation asset delegatee amount =>
    [.approved asset .variable msgSender delegatee amount]
  | listReserve input => [.listed input.underlyingAsset]
  | setConfiguration asset _ => [.configured asset]
  | _ => []

theorem Call.exec_writes {call : Call} (h : call.exec t msgSender pool = .ok pool') :
    Writes t (call.events msgSender) pool pool' := by
  cases call with
  | deposit asset amount onBehalfOf => exact deposit_writes h
  | withdraw asset amount recipient =>
    obtain ⟨⟨_, _⟩, hw, rfl⟩ := map_eq_ok.mp h
    exact withdraw_writes hw
  | borrow asset amount interestRateMode onBehalfOf =>
    obtain ⟨mode, hmode, writes⟩ := borrow_writes h
    rw [Call.events, hmode]
    exact writes
  | repay asset amount rateMode onBehalfOf =>
    obtain ⟨⟨_, _⟩, hr, rfl⟩ := map_eq_ok.mp h
    exact repay_writes hr
  | swapBorrowRateMode asset rateMode => exact swapBorrowRateMode_writes h
  | rebalanceStableBorrowRate asset user => exact rebalanceStableBorrowRate_writes h
  | setUserUseReserveAsCollateral asset useAsCollateral =>
    exact setUserUseReserveAsCollateral_writes h
  | liquidationCall collateralAsset debtAsset user debtToCover receiveLToken =>
    exact liquidationCall_writes h
  | elTokenTransfer asset recipient amount => exact elTokenTransfer_writes h
  | elTokenTransferFrom asset sender recipient amount => exact elTokenTransferFrom_writes h
  | elTokenApprove asset spender amount => exact elTokenApprove_writes h
  | approveStableDelegation asset delegatee amount =>
    cases Except.ok.inj h
    exact (Write.approveStableDelegation pool msgSender asset delegatee amount).writes
  | approveVariableDelegation asset delegatee amount =>
    cases Except.ok.inj h
    exact (Write.approveVariableDelegation pool msgSender asset delegatee amount).writes
  | approve asset spender amount =>
    have hcall : pool.callToken asset (·.approve msgSender spender amount) = .ok pool' := h
    exact callToken_writes hcall
  | transfer asset recipient amount =>
    have hcall : pool.callToken asset (·.transfer msgSender recipient amount) = .ok pool' := h
    exact callToken_writes hcall
  | transferFrom asset sender recipient amount =>
    have hcall : pool.callToken asset (·.transferFrom msgSender sender recipient amount) =
      .ok pool' := h
    exact callToken_writes hcall
  | listReserve input => exact (Write.listReserve h).writes
  | setConfiguration asset configuration =>
    cases Except.ok.inj h
    exact (Write.setConfiguration pool asset configuration).writes
  | setReserveInterestRateStrategy asset strategy =>
    cases Except.ok.inj h
    exact (Write.setReserveInterestRateStrategy pool asset strategy).writes
  | setPause val =>
    cases Except.ok.inj h
    exact (Write.setWorld pool val pool.priceOracle pool.lendingRateOracle).writes
  | setAssetPrice asset price =>
    cases Except.ok.inj h
    exact (Write.setWorld pool pool.paused _ pool.lendingRateOracle).writes
  | setMarketBorrowRate asset rate =>
    cases Except.ok.inj h
    exact (Write.setWorld pool pool.paused pool.priceOracle _).writes

theorem loanEvents_opened {msgSender onBehalfOf : Address} {entries : List FlashLoanEntry}
    {modes : List Nat} {e : Event} (he : e ∈ loanEvents msgSender onBehalfOf entries modes) :
    ∃ asset mode u v amount, e = .opened asset mode u v amount := by
  induction entries generalizing modes with
  | nil => simp [loanEvents] at he
  | cons entry entries ih =>
    cases modes with
    | nil => simp [loanEvents] at he
    | cons mode modes =>
      simp only [loanEvents, List.mem_append] at he
      obtain he | he := he
      · split at he
        · simp at he
        · simp at he
        · unfold Event.openedBy at he
          split at he
          · simp at he
          · exact ⟨_, _, _, _, _, List.mem_singleton.mp he⟩
      · exact ih he

/-- The events of a run are those of its calls, and the debt that its flash loans open. -/
theorem Steps.writes_of {rules : Rules} (Q : Event → Prop)
    (calls : ∀ pool msgSender call, rules.call pool msgSender call → ∀ e ∈ call.events msgSender, Q e)
    (opens : ∀ asset mode u v amount, Q (.opened asset mode u v amount))
    (run : Steps rules t pool pool') : ∃ events, Writes t events pool pool' ∧ ∀ e ∈ events, Q e := by
  induction run with
  | refl => exact ⟨[], .refl _, by simp⟩
  | call _ msgSender call allowed success ih =>
    obtain ⟨events, writes, hall⟩ := ih
    refine ⟨_, writes.trans (Call.exec_writes success), ?_⟩
    intro e he
    obtain he | he := List.mem_append.mp he
    · exact hall e he
    · exact calls _ _ _ allowed e he
  | flashLoan _ _ _ _ _ _ _ _ _ callback success ih called =>
    obtain ⟨events, writes, hall⟩ := ih
    obtain ⟨_, entries, sent, answer, returned, hsend, hanswer, hsettle⟩ := flashLoan_eq_ok success
    obtain ⟨inner, nested, hinner⟩ := called sent answer returned hanswer
    have settled := nested.trans (settleFlashLoan_writes hsettle)
    refine ⟨_, writes.trans (Writes.trans (sendFlashLoan_writes hsend) settled), ?_⟩
    intro e he
    simp only [List.nil_append, List.mem_append] at he
    obtain he | he | he := he
    · exact hall e he
    · exact hinner e he
    · obtain ⟨asset, mode, u, v, amount, rfl⟩ := loanEvents_opened he
      exact opens asset mode u v amount

theorem Steps.writes {rules : Rules} (run : Steps rules t pool pool') :
    ∃ events, Writes t events pool pool' := by
  obtain ⟨events, writes, _⟩ :=
    run.writes_of (fun _ => True) (fun _ _ _ _ _ _ => trivial) (fun _ _ _ _ _ => trivial)
  exact ⟨events, writes⟩

/-- The states in which somebody acts during a block: between two calls, and while the receiver of
a flash loan has control. -/
inductive Visits (rules : Rules) (t : Nat) : LendingPool → LendingPool → Prop
  | between {start pool : LendingPool} (steps : Steps rules t start pool) :
      Visits rules t start pool
  | inside {start pool sent visited : LendingPool} (before : Steps rules t start pool)
      {msgSender receiver : Address} {loans : List (Address × Nat)}
      {entries : List FlashLoanEntry} (allowed : rules.flashLoan pool msgSender receiver)
      (unpaused : pool.paused = false)
      (sending : pool.sendFlashLoan receiver loans = .ok (entries, sent))
      (callback : Visits rules t sent visited) : Visits rules t start visited

/-- The states that blocks of steps reach from `pool`, with the timestamp of the last block. -/
inductive Later (rules : Rules) (t : Nat) (pool : LendingPool) : Nat → LendingPool → Prop
  | now : Later rules t pool t pool
  | block {t' t'' : Nat} {pool' pool'' : LendingPool} (before : Later rules t pool t' pool')
      (later : t' ≤ t'') (timestamp : IsBlockTimestamp t'') (steps : Steps rules t'' pool' pool'') :
      Later rules t pool t'' pool''

/-- A state visited in the block of `t'`, at or after the state `pool` of time `t`. -/
def VisitedAfter (rules : Rules) (t : Nat) (pool : LendingPool) (t' : Nat) (visited : LendingPool) :
    Prop :=
  ∃ t₁ before, Later rules t pool t₁ before ∧ t₁ ≤ t' ∧ IsBlockTimestamp t' ∧
    Visits rules t' before visited

/-- A state that some run visits in the block of `t`. -/
def Visited (rules : Rules) (t : Nat) (visited : LendingPool) : Prop :=
  ∃ t₁ before, Reachable rules t₁ before ∧ t₁ ≤ t ∧ IsBlockTimestamp t ∧
    Visits rules t before visited

theorem Reachable.visited {rules : Rules} (h : Reachable rules t pool) (ht : IsBlockTimestamp t) :
    Visited rules t pool :=
  ⟨t, pool, h, Nat.le_refl t, ht, .between (.refl pool)⟩

theorem Visits.writes {rules : Rules} (h : Visits rules t pool pool') :
    ∃ events, Writes t events pool pool' := by
  induction h with
  | between steps => exact steps.writes
  | inside before _ _ sending _ ih =>
    obtain ⟨_, first⟩ := before.writes
    obtain ⟨_, nested⟩ := ih
    exact ⟨_, first.trans (Writes.trans (sendFlashLoan_writes sending) nested)⟩

/-- An invariant of the pool and the time that storage operations and the passing of time keep. -/
structure TimedInvariant (P : Nat → LendingPool → Prop) : Prop where
  later : ∀ t t' pool, t ≤ t' → P t pool → P t' pool
  write : ∀ t events pool pool', IsBlockTimestamp t → P t pool → Write t events pool pool' →
    P t pool'

section Invariants

variable {rules : Rules} {P : Nat → LendingPool → Prop}

theorem TimedInvariant.writes {events : List Event} (inv : TimedInvariant P)
    (ht : IsBlockTimestamp t) (h : Writes t events pool pool') (initial : P t pool) : P t pool' :=
  h.invariant (P t) (fun _ _ _ hp last => inv.write _ _ _ _ ht hp last) initial

theorem TimedInvariant.visits (inv : TimedInvariant P) (ht : IsBlockTimestamp t)
    (h : Visits rules t pool pool') (initial : P t pool) : P t pool' := by
  obtain ⟨_, writes⟩ := h.writes
  exact inv.writes ht writes initial

theorem TimedInvariant.reachable (inv : TimedInvariant P)
    (start : ∀ t this tokens priceOracle lendingRateOracle isContract,
      P t (LendingPool.initialized this tokens priceOracle lendingRateOracle isContract))
    (h : Reachable rules t pool) : P t pool := by
  induction h with
  | start => exact start _ _ _ _ _ _
  | block _ hle ht steps ih => exact inv.visits ht (.between steps) (inv.later _ _ _ hle ih)

theorem TimedInvariant.visited (inv : TimedInvariant P)
    (start : ∀ t this tokens priceOracle lendingRateOracle isContract,
      P t (LendingPool.initialized this tokens priceOracle lendingRateOracle isContract))
    (h : Visited rules t pool) : P t pool := by
  obtain ⟨_, _, reachable, hle, ht, visits⟩ := h
  exact inv.visits ht visits (inv.later _ _ _ hle (inv.reachable start reachable))

theorem TimedInvariant.after {t' : Nat} (inv : TimedInvariant P)
    (h : Later rules t pool t' pool') (initial : P t pool) : P t' pool' := by
  induction h with
  | now => exact initial
  | block _ hle ht steps ih => exact inv.visits ht (.between steps) (inv.later _ _ _ hle ih)

theorem TimedInvariant.visitedAfter {t' : Nat} (inv : TimedInvariant P)
    (h : VisitedAfter rules t pool t' pool') (initial : P t pool) : P t' pool' := by
  obtain ⟨_, _, before, hle, ht, visits⟩ := h
  exact inv.visits ht visits (inv.later _ _ _ hle (inv.after before initial))

end Invariants

end ElectroLend
