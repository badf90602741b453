import Mathlib.Logic.Function.Basic
import Mathlib.Tactic.Ring

namespace LastWrite

variable {α β : Type*} [DecidableEq α] {f : α → β} {first second : List (α × β)} {a : α}

def overwrite (f : α → β) : List (α × β) → α → β
  | [] => f
  | (key, value) :: rest => overwrite (Function.update f key value) rest

/-- The value written last under a key. -/
def lastWrite : List (α × β) → α → Option β
  | [], _ => none
  | (key, value) :: rest, a => (lastWrite rest a).or (if key = a then some value else none)

theorem overwrite_append : overwrite f (first ++ second) = overwrite (overwrite f first) second := by
  induction first generalizing f with
  | nil => rfl
  | cons write rest ih =>
    obtain ⟨key, value⟩ := write
    exact ih

theorem overwrite_apply : overwrite f first a = (lastWrite first a).getD (f a) := by
  induction first generalizing f with
  | nil => rfl
  | cons write rest ih =>
    obtain ⟨key, value⟩ := write
    rw [overwrite, ih, lastWrite]
    cases lastWrite rest a with
    | some last => rfl
    | none =>
      by_cases hkey : key = a
      · subst hkey
        simp
      · simp [hkey, Function.update_of_ne (Ne.symm hkey)]

theorem lastWrite_mem {value : β} (h : lastWrite first a = some value) : (a, value) ∈ first := by
  induction first with
  | nil => cases h
  | cons write rest ih =>
    obtain ⟨key, written⟩ := write
    rw [lastWrite] at h
    cases hrest : lastWrite rest a with
    | some last =>
      rw [hrest] at h
      cases Option.some.inj h
      exact List.mem_cons_of_mem _ (ih hrest)
    | none =>
      rw [hrest, Option.none_or] at h
      split at h
      · rename_i hkey
        cases Option.some.inj h
        rw [hkey]
        exact List.mem_cons_self ..
      · cases h

end LastWrite
