import Mathlib.Tactic.Common

namespace Runs

variable {σ : Type}

/-- `Steps step n s s'`: `s'` is reached from `s` by `n` steps, the `k`-th of them (from 0)
taken in `step k`. -/
inductive Steps (step : Nat → σ → σ → Prop) (s : σ) : Nat → σ → Prop
  | refl : Steps step s 0 s
  | tail {n s' s''} : Steps step s n s' → step n s' s'' → Steps step s (n + 1) s''

/-- An invariant may depend on how many steps have been taken. -/
theorem Steps.invariant {step : Nat → σ → σ → Prop} {s : σ} (P : Nat → σ → Prop) (start : P 0 s)
    (next : ∀ n s' s'', P n s' → step n s' s'' → P (n + 1) s'') {n : Nat} {s' : σ}
    (run : Steps step s n s') : P n s' := by
  induction run with
  | refl => exact start
  | tail _ last ih => exact next _ _ _ ih last

end Runs
