import ElectroLend.Library.HalfUp
import ElectroLend.Library.Runs

namespace ScaledDraws

open Runs

variable {unit index : Nat}

/-- How far one rounding can be off, counted twice: nothing when the index is the unit itself. -/
def slack (unit index : Nat) : Nat := if index = unit then 0 else index

theorem scaled_bounds (hi : 0 < index) (amount : Nat) :
    2 * (index * halfUp (amount * unit) index) ≤ 2 * (amount * unit) + slack unit index ∧
      2 * (amount * unit) ≤ 2 * (index * halfUp (amount * unit) index) + slack unit index := by
  unfold slack
  split
  next he =>
    subst he
    rw [HalfUp.mul_self_left amount hi, Nat.mul_comm index]
    omega
  next =>
    obtain ⟨low, high⟩ := HalfUp.two_mul_bounds (amount * unit) hi
    omega

/-- One draw, on the units that are left and the total that was drawn. -/
def Draw (unit index : Nat) (s s' : Nat × Nat) : Prop :=
  ∃ amount, s.1 = s'.1 + halfUp (amount * unit) index ∧ s'.2 = s.2 + amount

/-- What the draws and the units left are worth together, up to one rounding a draw. -/
theorem draws_bounds {n units left drawn : Nat} (hi : 0 < index)
    (run : Steps (fun _ => Draw unit index) (units, 0) n (left, drawn)) :
    2 * (drawn * unit) + 2 * (index * left) ≤ 2 * (index * units) + n * slack unit index ∧
      2 * (index * units) ≤ 2 * (drawn * unit) + 2 * (index * left) + n * slack unit index := by
  refine run.invariant (fun n s =>
    2 * (s.2 * unit) + 2 * (index * s.1) ≤ 2 * (index * units) + n * slack unit index ∧
      2 * (index * units) ≤ 2 * (s.2 * unit) + 2 * (index * s.1) + n * slack unit index) ?_ ?_
  · simp
  · rintro n ⟨left, drawn⟩ ⟨left', drawn'⟩ ⟨low, high⟩ ⟨amount, hleft, hdrawn⟩
    dsimp only at low high hleft hdrawn ⊢
    obtain ⟨hlow, hhigh⟩ := @scaled_bounds unit _ hi amount
    rw [hleft, Nat.mul_add] at low high
    rw [hdrawn, Nat.add_mul, Nat.add_mul n]
    omega

end ScaledDraws
