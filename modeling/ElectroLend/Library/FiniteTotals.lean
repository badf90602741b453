import Mathlib.Algebra.BigOperators.Finprod
import Mathlib.Tactic.Abel

namespace FiniteTotals

variable {α M : Type*} [AddCommMonoid M] {f : α → M} {total total' x : M} {a : α}

/-- Finitely many holders have anything, and all of them together have `total`. -/
structure SumsTo (f : α → M) (total : M) : Prop where
  finite : (Function.support f).Finite
  sum_eq : ∑ᶠ a, f a = total

namespace SumsTo

theorem zero : SumsTo (fun _ : α => (0 : M)) 0 where
  finite := by simp
  sum_eq := finsum_zero

theorem sum_of_subset (h : SumsTo f total) {holders : Finset α}
    (all : Function.support f ⊆ holders) : ∑ a ∈ holders, f a = total := by
  rw [← h.sum_eq]
  exact (finsum_eq_sum_of_support_subset f all).symm

theorem le_total [PartialOrder M] [IsOrderedAddMonoid M] [CanonicallyOrderedAdd M]
    (h : SumsTo f total) (a : α) : f a ≤ total := by
  classical
  let holders := insert a h.finite.toFinset
  have all : Function.support f ⊆ holders := by
    intro b hb
    exact Finset.mem_coe.mpr (Finset.mem_insert_of_mem (h.finite.mem_toFinset.mpr hb))
  rw [← h.sum_of_subset all]
  exact Finset.single_le_sum_of_canonicallyOrdered (Finset.mem_insert_self a _)

theorem of_subset {holders : Finset α} (all : Function.support f ⊆ holders)
    (hsum : ∑ a ∈ holders, f a = total) : SumsTo f total where
  finite := holders.finite_toSet.subset all
  sum_eq := (finsum_eq_sum_of_support_subset f all).trans hsum

theorem update [DecidableEq α] [IsCancelAdd M] (h : SumsTo f total)
    (difference : total + x = total' + f a) : SumsTo (Function.update f a x) total' := by
  let holders := insert a h.finite.toFinset
  have member : a ∈ holders := Finset.mem_insert_self _ _
  have all : Function.support f ⊆ holders := by
    intro b hb
    exact Finset.mem_coe.mpr (Finset.mem_insert_of_mem (h.finite.mem_toFinset.mpr hb))
  have all' : Function.support (Function.update f a x) ⊆ holders := by
    intro b hb
    by_cases hba : b = a
    · rw [hba]
      exact Finset.mem_coe.mpr member
    · rw [Function.mem_support, Function.update_of_ne hba] at hb
      exact all hb
  have before : f a + ∑ b ∈ holders \ {a}, f b = total := by
    rw [← h.sum_of_subset all, ← Finset.erase_eq, Finset.add_sum_erase _ _ member]
  have after : ∑ b ∈ holders, Function.update f a x b = x + ∑ b ∈ holders \ {a}, f b :=
    Finset.sum_update_of_mem member f x
  refine of_subset all' ?_
  have rearranged : total' + f a = x + (∑ b ∈ holders \ {a}, f b) + f a := by
    rw [← difference, ← before]
    abel
  rw [after]
  exact (add_right_cancel rearranged).symm

theorem weighted_le {part weight : α → Nat} {total mass bound : Nat} (parts : SumsTo part total)
    (masses : SumsTo (fun a => weight a * part a) mass) (weights : ∀ a, weight a ≤ bound) :
    mass ≤ bound * total := by
  let holders := parts.finite.toFinset
  have all : Function.support part ⊆ holders := by
    intro a ha
    exact Finset.mem_coe.mpr (parts.finite.mem_toFinset.mpr ha)
  have all' : Function.support (fun a => weight a * part a) ⊆ holders := by
    intro a ha
    exact all (Nat.mul_ne_zero_iff.mp ha).2
  rw [← parts.sum_of_subset all, ← masses.sum_of_subset all', Finset.mul_sum]
  exact Finset.sum_le_sum fun a _ => Nat.mul_le_mul_right _ (weights a)

/-- The weighted total of what is left when a part of one holder's share is taken out. -/
theorem weighted_sub_le [DecidableEq α] {part weight : α → Nat} {total mass bound taken : Nat}
    (parts : SumsTo part total) (masses : SumsTo (fun a => weight a * part a) mass)
    (weights : ∀ a, weight a ≤ bound) (h : taken ≤ part a) :
    mass - weight a * taken ≤ bound * (total - taken) := by
  have share := parts.le_total a
  have heavy : weight a * part a ≤ mass := masses.le_total a
  have split : weight a * part a = weight a * (part a - taken) + weight a * taken := by
    rw [← Nat.mul_add, Nat.sub_add_cancel h]
  have left : SumsTo (Function.update part a (part a - taken)) (total - taken) :=
    parts.update (by omega)
  have light : SumsTo (Function.update (fun b => weight b * part b) a
      (weight a * (part a - taken))) (mass - weight a * taken) :=
    masses.update (by omega)
  have same : Function.update (fun b => weight b * part b) a (weight a * (part a - taken)) =
      fun b => weight b * Function.update part a (part a - taken) b := by
    funext b
    by_cases hb : b = a
    · subst hb
      simp only [Function.update_self]
    · simp only [Function.update_of_ne hb]
  rw [same] at light
  exact left.weighted_le light weights

end SumsTo

end FiniteTotals
