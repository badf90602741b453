import Mathlib.Data.List.Nodup
import Mathlib.Tactic.Common

namespace AppendOnce

variable {α : Type*} {xs ys : List α} {x y : α} {i : Nat}

theorem getElem?_of_prefix (h : xs <+: ys) (hx : xs[i]? = some x) : ys[i]? = some x := by
  obtain ⟨rest, rfl⟩ := h
  have hi : i < xs.length := by
    rw [List.getElem?_eq_some_iff] at hx
    exact hx.1
  rw [List.getElem?_append_left hi]
  exact hx

variable [DecidableEq α]

/-- Appends an element that is not there yet. -/
def append (xs : List α) (x : α) : List α := if x ∈ xs then xs else xs ++ [x]

theorem mem_append : y ∈ append xs x ↔ y ∈ xs ∨ y = x := by
  unfold append
  split
  next h =>
    constructor
    · exact .inl
    · rintro (hy | rfl)
      · exact hy
      · exact h
  next => simp

theorem nodup_append (h : xs.Nodup) : (append xs x).Nodup := by
  unfold append
  split
  · exact h
  next hx =>
    rw [List.nodup_append]
    refine ⟨h, List.nodup_singleton x, ?_⟩
    intro y hy z hz heq
    subst heq
    exact hx (List.mem_singleton.mp hz ▸ hy)

theorem prefix_append (xs : List α) (x : α) : xs <+: append xs x := by
  unfold append
  split
  · exact List.prefix_refl xs
  · exact List.prefix_append xs [x]

end AppendOnce
