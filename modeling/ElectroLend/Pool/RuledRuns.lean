import ElectroLend.Pool.CallDeeds
import ElectroLend.Pool.Visits

namespace ElectroLend

open Outcome LendingPool

variable {pool pool' : LendingPool} {t t' : Nat} {rules : Rules}

namespace LendingPool

theorem flashLoan_unpaused {version : PoolVersion} {msgSender receiver onBehalfOf : Address}
    {assets : List Address} {amounts modes : List Nat}
    {executeOperation : LendingPool → Result (Bool × LendingPool)}
    (h : pool.flashLoan t version msgSender receiver assets amounts modes onBehalfOf
      executeOperation = .ok pool') : pool.paused = false := by
  simp only [flashLoan, whenNotPaused, bind_eq_ok, require_eq_ok] at h
  obtain ⟨_, hp, _⟩ := h
  simpa using hp

end LendingPool

/-- What the calls and flash loans that the rules allow preserve, and the passing of time. A flash
loan settles after a start that the invariant held in as well. -/
structure RuledInvariant (rules : Rules) (P : Nat → LendingPool → Prop) : Prop where
  later : ∀ t t' pool, t ≤ t' → P t pool → P t' pool
  call : ∀ t pool pool' msgSender call, IsBlockTimestamp t → rules.call pool msgSender call →
    call.exec t msgSender pool = .ok pool' → P t pool → P t pool'
  send : ∀ t pool pool' msgSender receiver loans entries, rules.flashLoan pool msgSender receiver →
    pool.paused = false → pool.sendFlashLoan receiver loans = .ok (entries, pool') →
    P t pool → P t pool'
  settle : ∀ t start pool pool' msgSender receiver onBehalfOf entries modes, IsBlockTimestamp t →
    rules.flashLoan start msgSender receiver → start.paused = false → P t start →
    pool.settleFlashLoan t .lendingPool msgSender receiver onBehalfOf entries modes = .ok pool' →
    P t pool → P t pool'

namespace RuledInvariant

variable {P : Nat → LendingPool → Prop}

theorem steps (inv : RuledInvariant rules P) (ht : IsBlockTimestamp t)
    (run : Steps rules t pool pool') (initial : P t pool) : P t pool' := by
  induction run with
  | refl => exact initial
  | call _ msgSender call allowed success ih =>
    exact inv.call _ _ _ msgSender call ht allowed success (ih initial)
  | flashLoan _ msgSender receiver assets amounts modes onBehalfOf _ allowed _ success ih called =>
    have before := ih initial
    have unpaused := flashLoan_unpaused success
    obtain ⟨_, entries, sent, answer, returned, hsend, hanswer, hsettle⟩ := flashLoan_eq_ok success
    have sending := inv.send _ _ _ msgSender receiver _ _ allowed unpaused hsend before
    have back := called sent answer returned hanswer sending
    exact inv.settle _ _ _ _ msgSender receiver onBehalfOf entries modes ht allowed unpaused before
      hsettle back

theorem visits (inv : RuledInvariant rules P) (ht : IsBlockTimestamp t)
    (h : Visits rules t pool pool') (initial : P t pool) : P t pool' := by
  induction h with
  | between run => exact inv.steps ht run initial
  | inside before allowed unpaused sending _ ih =>
    exact ih (inv.send _ _ _ _ _ _ _ allowed unpaused sending (inv.steps ht before initial))

theorem after (inv : RuledInvariant rules P) (h : Later rules t pool t' pool')
    (initial : P t pool) : P t' pool' := by
  induction h with
  | now => exact initial
  | block _ hle ht steps ih => exact inv.steps ht steps (inv.later _ _ _ hle ih)

theorem visitedAfter (inv : RuledInvariant rules P) (h : VisitedAfter rules t pool t' pool')
    (initial : P t pool) : P t' pool' := by
  obtain ⟨_, before, later, hle, ht, visits⟩ := h
  exact inv.visits ht visits (inv.later _ _ _ hle (inv.after later initial))

/-- An invariant of the fine deeds, of rules under which nothing else is done. -/
theorem of_deeds {Q : LendingPool → Prop} {fine : Deed → Prop}
    (step : ∀ t deed pool pool', fine deed → Did t deed pool pool' → Q pool → Q pool')
    (calls : ∀ t pool pool' msgSender call, rules.call pool msgSender call →
      call.exec t msgSender pool = .ok pool' → Q pool → ∀ deed ∈ call.deeds pool msgSender,
        fine deed)
    (sends : ∀ pool msgSender receiver, rules.flashLoan pool msgSender receiver →
      pool.paused = false → Q pool → ∀ deed, loanDeeds pool deed → fine deed)
    (settles : ∀ pool msgSender receiver onBehalfOf, rules.flashLoan pool msgSender receiver →
      pool.paused = false → Q pool → ∀ deed, settlementDeeds msgSender receiver onBehalfOf deed →
        fine deed) :
    RuledInvariant rules fun _ pool => Q pool where
  later _ _ _ _ holds := holds
  call t _ _ _ _ _ allowed success holds :=
    (Call.exec_deeds success).invariant Q
      (fun _ _ _ hdeed holds' did =>
        step t _ _ _ (calls _ _ _ _ _ allowed success holds _ hdeed) did holds') holds
  send t _ _ _ _ _ _ allowed unpaused sending holds :=
    (sendFlashLoan_deeds sending).invariant Q
      (fun _ _ _ hdeed holds' did =>
        step t _ _ _ (sends _ _ _ allowed unpaused holds _ hdeed) did holds') holds
  settle t _ _ _ _ _ onBehalfOf _ _ _ allowed unpaused before settling holds :=
    (settleFlashLoan_deeds settling).invariant Q
      (fun _ _ _ hdeed holds' did =>
        step t _ _ _ (settles _ _ _ onBehalfOf allowed unpaused before _ hdeed) did holds') holds

end RuledInvariant

/-- The states that blocks of steps reach from `pool`, where the rules depend on the time. -/
inductive LaterUnder (rules : Nat → Rules) (t : Nat) (pool : LendingPool) :
    Nat → LendingPool → Prop
  | now : LaterUnder rules t pool t pool
  | block {t' t'' : Nat} {pool' pool'' : LendingPool} (before : LaterUnder rules t pool t' pool')
      (later : t' ≤ t'') (timestamp : IsBlockTimestamp t'')
      (steps : Steps (rules t'') t'' pool' pool'') : LaterUnder rules t pool t'' pool''

/-- A state visited in the block of `t'`, at or after the state `pool` of time `t`. -/
def VisitedUnder (rules : Nat → Rules) (t : Nat) (pool : LendingPool) (t' : Nat)
    (visited : LendingPool) : Prop :=
  ∃ t₁ before, LaterUnder rules t pool t₁ before ∧ t₁ ≤ t' ∧ IsBlockTimestamp t' ∧
    Visits (rules t') t' before visited

/-- What the rules of any time allow is allowed always, as far as it succeeds. -/
structure Rules.Allow (rules' : Rules) (rules : Nat → Rules) : Prop where
  call : ∀ t pool pool' msgSender call, (rules t).call pool msgSender call →
    call.exec t msgSender pool = .ok pool' → rules'.call pool msgSender call
  flashLoan : ∀ t pool msgSender receiver, (rules t).flashLoan pool msgSender receiver →
    rules'.flashLoan pool msgSender receiver

namespace Rules.Allow

variable {timed : Nat → Rules}

theorem steps (allow : rules.Allow timed) (run : Steps (timed t) t pool pool') :
    Steps rules t pool pool' := by
  induction run with
  | refl => exact .refl _
  | call _ msgSender call allowed success ih =>
    exact .call ih msgSender call (allow.call _ _ _ _ _ allowed success) success
  | flashLoan _ msgSender receiver assets amounts modes onBehalfOf executeOperation allowed _
      success ih called =>
    exact .flashLoan ih msgSender receiver assets amounts modes onBehalfOf executeOperation
      (allow.flashLoan _ _ _ _ allowed) called success

theorem visits (allow : rules.Allow timed) (h : Visits (timed t) t pool pool') :
    Visits rules t pool pool' := by
  induction h with
  | between run => exact .between (allow.steps run)
  | inside before allowed unpaused sending _ ih =>
    exact .inside (allow.steps before) (allow.flashLoan _ _ _ _ allowed) unpaused sending ih

theorem after (allow : rules.Allow timed) (h : LaterUnder timed t pool t' pool') :
    Later rules t pool t' pool' := by
  induction h with
  | now => exact .now
  | block _ hle ht steps ih => exact .block ih hle ht (allow.steps steps)

theorem visitedAfter (allow : rules.Allow timed) (h : VisitedUnder timed t pool t' pool') :
    VisitedAfter rules t pool t' pool' := by
  obtain ⟨t₁, before, later, hle, ht, visits⟩ := h
  exact ⟨t₁, before, allow.after later, hle, ht, allow.visits visits⟩

end Rules.Allow

end ElectroLend
