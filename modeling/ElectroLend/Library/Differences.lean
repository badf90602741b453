import Mathlib.Algebra.Group.Pi.Basic
import Mathlib.Tactic.Abel
import Mathlib.Tactic.Common

namespace Differences

variable {α : Type*} {d e : α → Int} {f g g' h h' : α → Nat}

/-- `g` holds what `f` does and the difference `d`. -/
def Moved (d : α → Int) (f g : α → Nat) : Prop := ∀ a, (g a : Int) = f a + d a

theorem Moved.refl (f : α → Nat) : Moved 0 f f := by
  intro a
  simp

theorem Moved.trans (first : Moved d f g) (second : Moved e g h) : Moved (d + e) f h := by
  intro a
  rw [second a, first a, Pi.add_apply, Int.add_assoc]

theorem Moved.unique (first : Moved d f g) (second : Moved d f g') : g = g' := by
  funext a
  have same : (g a : Int) = g' a := (first a).trans (second a).symm
  omega

theorem Moved.same (first : Moved d f g) {a : α} (hzero : d a = 0) : g a = f a := by
  have moved := first a
  omega

theorem Moved.commute (first : Moved d f g) (second : Moved e g h) (second' : Moved e f g')
    (first' : Moved d g' h') : h = h' := by
  refine (first.trans second).unique ?_
  rw [add_comm]
  exact second'.trans first'

section Entries

variable [DecidableEq α] {a b : α} {n : Nat}

theorem Moved.add_at : Moved (Pi.single a (n : Int)) f (Function.update f a (f a + n)) := by
  intro b
  by_cases hb : b = a
  · subst hb
    simp
  · simp [hb]

theorem Moved.sub_at (hle : n ≤ f a) :
    Moved (Pi.single a (-(n : Int))) f (Function.update f a (f a - n)) := by
  intro b
  by_cases hb : b = a
  · subst hb
    simp [Int.ofNat_sub hle]
    omega
  · simp [hb]

end Entries

end Differences
