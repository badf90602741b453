import ElectroLend.Pool.Scripts
import ElectroLend.Pool.Visits

namespace ElectroLend

open Outcome LendingPool

/-- Successful calls and flash loans in one block, with what they are remembered for, in order. What
a flash loan's receiver does comes before the debt that the loan opens. -/
inductive Traced (rules : Rules) (t : Nat) : List Event → LendingPool → LendingPool → Prop
  | refl (pool : LendingPool) : Traced rules t [] pool pool
  | call {events : List Event} {start pool pool' : LendingPool}
      (before : Traced rules t events start pool) (msgSender : Address) (call : Call)
      (allowed : rules.call pool msgSender call) (success : call.exec t msgSender pool = .ok pool') :
      Traced rules t (events ++ call.events msgSender) start pool'
  | flashLoan {events inner : List Event} {start pool sent returned pool' : LendingPool}
      {answer : Bool} {entries : List FlashLoanEntry} (before : Traced rules t events start pool)
      (msgSender receiver : Address) (assets : List Address) (amounts modes : List Nat)
      (onBehalfOf : Address) (executeOperation : LendingPool → Result (Bool × LendingPool))
      (allowed : rules.flashLoan pool msgSender receiver)
      (sending : pool.sendFlashLoan receiver (assets.zip amounts) = .ok (entries, sent))
      (called : executeOperation sent = .ok (answer, returned))
      (callback : Traced rules t inner sent returned)
      (success : pool.flashLoan t .lendingPool msgSender receiver assets amounts modes onBehalfOf
        executeOperation = .ok pool') :
      Traced rules t (events ++ (inner ++ loanEvents msgSender onBehalfOf entries modes)) start pool'

/-- The events up to a state in which somebody acts during a block. -/
inductive TracedVisit (rules : Rules) (t : Nat) : List Event → LendingPool → LendingPool → Prop
  | between {events : List Event} {start pool : LendingPool}
      (steps : Traced rules t events start pool) : TracedVisit rules t events start pool
  | inside {events inner : List Event} {start pool sent visited : LendingPool}
      (before : Traced rules t events start pool) {msgSender receiver : Address}
      {loans : List (Address × Nat)} {entries : List FlashLoanEntry}
      (allowed : rules.flashLoan pool msgSender receiver) (unpaused : pool.paused = false)
      (sending : pool.sendFlashLoan receiver loans = .ok (entries, sent))
      (callback : TracedVisit rules t inner sent visited) :
      TracedVisit rules t (events ++ inner) start visited

/-- The events of a whole run, block after block, from the deployment of the pool. -/
inductive History (rules : Rules) : Nat → List Event → LendingPool → Prop
  | start (t : Nat) (this : Address) (tokens : Address → ERC20)
      (priceOracle lendingRateOracle : Address → Nat) (isContract : Address → Bool) :
      History rules t []
        (LendingPool.initialized this tokens priceOracle lendingRateOracle isContract)
  | block {t t' : Nat} {past new : List Event} {pool pool' : LendingPool}
      (before : History rules t past pool) (later : t ≤ t') (timestamp : IsBlockTimestamp t')
      (steps : Traced rules t' new pool pool') : History rules t' (past ++ new) pool'

/-- A state that some run visits in the block of `t`, with the events of the run so far. -/
inductive VisitedWith (rules : Rules) (t : Nat) : List Event → LendingPool → Prop
  | visit {t₁ : Nat} {past new : List Event} {before visited : LendingPool}
      (history : History rules t₁ past before) (later : t₁ ≤ t) (timestamp : IsBlockTimestamp t)
      (visits : TracedVisit rules t new before visited) : VisitedWith rules t (past ++ new) visited

variable {rules : Rules} {pool pool' : LendingPool} {t : Nat} {events : List Event}

theorem Traced.writes (run : Traced rules t events pool pool') : Writes t events pool pool' := by
  induction run with
  | refl => exact .refl _
  | call _ msgSender call _ success ih => exact ih.trans (Call.exec_writes success)
  | flashLoan _ _ _ _ _ _ _ _ _ sending called _ success before inner =>
    obtain ⟨_, entries', sent', answer', returned', hsend, hanswer, hsettle⟩ :=
      flashLoan_eq_ok success
    cases ok_unique sending hsend
    cases ok_unique called hanswer
    have settled := inner.trans (settleFlashLoan_writes hsettle)
    have opened := Writes.trans (sendFlashLoan_writes sending) settled
    rw [List.nil_append] at opened
    exact before.trans opened

theorem TracedVisit.writes (visit : TracedVisit rules t events pool pool') :
    Writes t events pool pool' := by
  induction visit with
  | between steps => exact steps.writes
  | inside before _ _ sending _ ih =>
    exact before.writes.trans (Writes.trans (sendFlashLoan_writes sending) ih)

/-- Every run has its events. -/
theorem Steps.traced (run : Steps rules t pool pool') :
    ∃ events, Traced rules t events pool pool' := by
  induction run with
  | refl => exact ⟨[], .refl _⟩
  | call _ msgSender call allowed success ih =>
    obtain ⟨events, before⟩ := ih
    exact ⟨_, before.call msgSender call allowed success⟩
  | flashLoan _ msgSender receiver assets amounts modes onBehalfOf executeOperation allowed callback
      success ih called =>
    obtain ⟨events, before⟩ := ih
    obtain ⟨_, entries, sent, answer, returned, hsend, hanswer, _⟩ := flashLoan_eq_ok success
    obtain ⟨inner, nested⟩ := called sent answer returned hanswer
    exact ⟨_, before.flashLoan msgSender receiver assets amounts modes onBehalfOf executeOperation
      allowed hsend hanswer nested success⟩

theorem Visits.traced (visits : Visits rules t pool pool') :
    ∃ events, TracedVisit rules t events pool pool' := by
  induction visits with
  | between steps =>
    obtain ⟨events, traced⟩ := steps.traced
    exact ⟨events, .between traced⟩
  | inside before allowed unpaused sending _ ih =>
    obtain ⟨events, first⟩ := before.traced
    obtain ⟨inner, nested⟩ := ih
    exact ⟨_, .inside first allowed unpaused sending nested⟩

theorem Reachable.history (h : Reachable rules t pool) : ∃ events, History rules t events pool := by
  induction h with
  | start t this tokens priceOracle lendingRateOracle isContract =>
    exact ⟨[], .start t this tokens priceOracle lendingRateOracle isContract⟩
  | block _ later timestamp steps ih =>
    obtain ⟨past, before⟩ := ih
    obtain ⟨new, traced⟩ := steps.traced
    exact ⟨_, before.block later timestamp traced⟩

theorem Visited.history (h : Visited rules t pool) :
    ∃ events, VisitedWith rules t events pool := by
  obtain ⟨_, _, reachable, later, timestamp, visits⟩ := h
  obtain ⟨past, history⟩ := reachable.history
  obtain ⟨new, traced⟩ := visits.traced
  exact ⟨_, .visit history later timestamp traced⟩

/-- What every storage operation does to a quantity that follows the events, a chain does. -/
theorem LendingPool.Writes.follows {σ : Type} {step : σ → Event → σ} {P : LendingPool → σ → Prop}
    (write : ∀ t new pool pool' s, Write t new pool pool' → P pool s → P pool' (new.foldl step s))
    (h : Writes t events pool pool') {s : σ} (hs : P pool s) : P pool' (events.foldl step s) := by
  induction h with
  | refl => exact hs
  | tail _ last ih =>
    rw [List.foldl_append]
    exact write _ _ _ _ _ last (ih hs)

theorem History.follows {σ : Type} {step : σ → Event → σ} {P : LendingPool → σ → Prop} {initial : σ}
    (start : ∀ this tokens priceOracle lendingRateOracle isContract,
      P (LendingPool.initialized this tokens priceOracle lendingRateOracle isContract) initial)
    (write : ∀ t new pool pool' s, Write t new pool pool' → P pool s → P pool' (new.foldl step s))
    (h : History rules t events pool) : P pool (events.foldl step initial) := by
  induction h with
  | start t this tokens priceOracle lendingRateOracle isContract => exact start _ _ _ _ _
  | block _ _ _ steps ih =>
    rw [List.foldl_append]
    exact steps.writes.follows write ih

theorem VisitedWith.follows {σ : Type} {step : σ → Event → σ} {P : LendingPool → σ → Prop}
    {initial : σ}
    (start : ∀ this tokens priceOracle lendingRateOracle isContract,
      P (LendingPool.initialized this tokens priceOracle lendingRateOracle isContract) initial)
    (write : ∀ t new pool pool' s, Write t new pool pool' → P pool s → P pool' (new.foldl step s))
    (h : VisitedWith rules t events pool) : P pool (events.foldl step initial) := by
  obtain ⟨history, _, _, visits⟩ := h
  rw [List.foldl_append]
  exact visits.writes.follows write (history.follows start write)

/-- The events of a script. -/
def scriptEvents (calls : List TimedCall) : List Event :=
  calls.flatMap fun (_, msgSender, call) => call.events msgSender

theorem History.script {last : Nat} {calls : List TimedCall} (h : History .any t events pool)
    (ordered : timestampsOrdered t last calls = true) (success : runScript pool calls = .ok pool') :
    History .any last (events ++ scriptEvents calls) pool' := by
  induction calls generalizing t pool events with
  | nil =>
    cases Except.ok.inj success
    simp only [timestampsOrdered, Bool.and_eq_true, decide_eq_true_eq] at ordered
    exact .block h ordered.1 ordered.2 (.refl _)
  | cons first rest ih =>
    obtain ⟨t', msgSender, call⟩ := first
    simp only [timestampsOrdered, Bool.and_eq_true, decide_eq_true_eq] at ordered
    simp only [runScript, bind_eq_ok] at success
    obtain ⟨middle, hcall, hrest⟩ := success
    have step : Traced .any t' (call.events msgSender) pool middle :=
      .call (.refl _) msgSender call trivial hcall
    have whole := ih (.block h ordered.1.1 ordered.1.2 step) ordered.2 hrest
    rw [List.append_assoc] at whole
    exact whole

theorem Market.endState_history {calls : List TimedCall} {last : Nat}
    (success : (runScript genesis calls).isOk = true)
    (ordered : timestampsOrdered 0 last calls = true) :
    History .any last (scriptEvents calls) (endState calls) :=
  History.script (.start 0 _ _ _ _ _) ordered (runScript_endState success)

theorem History.visitedWith (h : History rules t events pool) (ht : IsBlockTimestamp t) :
    VisitedWith rules t events pool := by
  have visit := VisitedWith.visit h (Nat.le_refl t) ht (.between (.refl pool))
  rw [List.append_nil] at visit
  exact visit

end ElectroLend
