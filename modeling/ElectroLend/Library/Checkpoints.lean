import Mathlib.Tactic.Common

namespace Checkpoints

variable {σ ρ : Type}

/-- The state that a step leaves at its time, and what it reports of the state before. -/
structure Moment (σ ρ : Type) where
  time : Nat
  state : σ
  reports : List ρ

/-- The moments of a history from a state on, up to a time `now`. -/
def Follows (step : Nat → σ → σ → List ρ → Prop) (now : Nat) : Nat → σ → List (Moment σ ρ) → Prop
  | t, _, [] => t ≤ now
  | t, s, moment :: rest =>
    t ≤ moment.time ∧ step moment.time s moment.state moment.reports ∧
      Follows step now moment.time moment.state rest

def lastState : σ → List (Moment σ ρ) → σ
  | s, [] => s
  | _, moment :: rest => lastState moment.state rest

/-- The sum of a quantity over time. -/
def overTime (quantity : σ → Nat) (now : Nat) : Nat → σ → List (Moment σ ρ) → Nat
  | t, s, [] => quantity s * (now - t)
  | t, s, moment :: rest =>
    quantity s * (moment.time - t) + overTime quantity now moment.time moment.state rest

/-- The sum that follows from readings with their times: each reading is taken for the time since
the one before, and the current value for the time since the last. -/
def measured (current now : Nat) : Nat → List (Nat × Nat) → Nat
  | t, [] => current * (now - t)
  | t, (time, value) :: rest => value * (time - t) + measured current now time rest

/-- The readings that the reports of a history contain. -/
def readings (read : ρ → Option Nat) (moments : List (Moment σ ρ)) : List (Nat × Nat) :=
  moments.flatMap fun moment => (moment.reports.filterMap read).map fun value => (moment.time, value)

/-- A step reports the quantity as it was, and does not change it without a report. -/
structure Told (step : Nat → σ → σ → List ρ → Prop) (quantity : σ → Nat) (read : ρ → Option Nat) :
    Prop where
  before : ∀ {t s s' reports}, step t s s' reports →
    ∀ value ∈ reports.filterMap read, value = quantity s
  silent : ∀ {t s s' reports}, step t s s' reports → reports.filterMap read = [] →
    quantity s' = quantity s

variable {step : Nat → σ → σ → List ρ → Prop} {quantity : σ → Nat} {read : ρ → Option Nat}
  {t now current : Nat} {s : σ} {moments : List (Moment σ ρ)}

theorem measured_again (values : List Nat) (rest : List (Nat × Nat)) :
    measured current now t (values.map (fun value => (t, value)) ++ rest) =
      measured current now t rest := by
  induction values with
  | nil => rfl
  | cons value values ih => simp [measured, ih]

theorem Told.measured_since (told : Told step quantity read) {earlier : Nat} (hle : earlier ≤ t)
    (h : Follows step now t s moments) :
    quantity s * (t - earlier) + overTime quantity now t s moments =
      measured (quantity (lastState s moments)) now earlier (readings read moments) := by
  induction moments generalizing t s earlier with
  | nil =>
    have hnow : t ≤ now := h
    have split : now - earlier = (t - earlier) + (now - t) := by omega
    simp only [overTime, lastState, readings, measured, List.flatMap_nil, split, Nat.mul_add]
  | cons moment rest ih =>
    obtain ⟨htime, hstep, hrest⟩ := h
    have split : moment.time - earlier = (t - earlier) + (moment.time - t) := by omega
    simp only [overTime, lastState, readings, List.flatMap_cons]
    cases heard : moment.reports.filterMap read with
    | nil =>
      have later := ih (Nat.le_trans hle htime) hrest
      rw [told.silent hstep heard, split, Nat.mul_add] at later
      simp only [List.map_nil, List.nil_append]
      rw [← Nat.add_assoc]
      exact later
    | cons value values =>
      have hvalue : value = quantity s := told.before hstep value (by simp [heard])
      have later := ih (Nat.le_refl _) hrest
      rw [Nat.sub_self, Nat.mul_zero, Nat.zero_add] at later
      simp only [List.map_cons, List.cons_append, measured, measured_again]
      rw [later, hvalue, split, Nat.mul_add, Nat.add_assoc]
      rfl

theorem Told.overTime_eq (told : Told step quantity read) (h : Follows step now t s moments) :
    overTime quantity now t s moments =
      measured (quantity (lastState s moments)) now t (readings read moments) := by
  have since := told.measured_since (Nat.le_refl t) h
  rwa [Nat.sub_self, Nat.mul_zero, Nat.zero_add] at since

end Checkpoints
