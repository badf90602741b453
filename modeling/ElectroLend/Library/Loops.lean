import Mathlib.Data.List.Forall2
import ElectroLend.Library.Outcome

namespace Outcome

variable {ε α β : Type}

theorem mapM_ok {f : α → Except ε β} {g : α → β} {xs : List α} (h : ∀ x ∈ xs, f x = .ok (g x)) :
    xs.mapM f = .ok (xs.map g) := by
  induction xs with
  | nil => rfl
  | cons x xs ih =>
    rw [List.mapM_cons, h x List.mem_cons_self, ih fun y hy => h y (List.mem_cons_of_mem x hy)]
    rfl

/-- `for j: array[start + j] = f(values[j])`, over the values that are left at position `j`. -/
def fill (f : α → Except ε β) (start : Nat) : Nat → List α → List β → Except ε (List β)
  | _, [], array => .ok array
  | j, x :: xs, array => do
    let b ← f x
    fill f start (j + 1) xs (array.set (start + j) b)

/-- The loop writes the values that it computes, in their order, and fails as their list does. -/
theorem fill_eq_mapM {f : α → Except ε β} {start j : Nat} {xs : List α} {before old : List β}
    (hbefore : before.length = start + j) (room : xs.length ≤ old.length) :
    fill f start j xs (before ++ old) =
      (xs.mapM f >>= fun values => .ok (before ++ values ++ old.drop xs.length)) := by
  induction xs generalizing j before old with
  | nil => simp [fill, pure, Except.pure]
  | cons x xs ih =>
    cases old with
    | nil => simp at room
    | cons o old =>
      unfold fill
      rw [List.mapM_cons, bind_assoc]
      refine bind_congr fun b => ?_
      have written : (before ++ o :: old).set (start + j) b = (before ++ [b]) ++ old := by
        rw [← hbefore, List.set_append_right _ _ (Nat.le_refl _)]
        simp
      rw [written, ih (by simp [hbefore, Nat.add_assoc]) (by simpa using room), bind_assoc]
      refine bind_congr fun values => ?_
      simp [pure, Except.pure]

/-- The results stand in the order of the values that they are computed from. -/
theorem mapM_forall₂ {f : α → Except ε β} {xs : List α} {ys : List β} (h : xs.mapM f = .ok ys) :
    List.Forall₂ (fun x y => f x = .ok y) xs ys := by
  induction xs generalizing ys with
  | nil =>
    cases Except.ok.inj h
    exact .nil
  | cons x xs ih =>
    simp only [List.mapM_cons, bind_eq_ok, pure_eq_ok] at h
    obtain ⟨y, hy, values, hvalues, rfl⟩ := h
    exact .cons hy (ih hvalues)

theorem mapM_length {f : α → Except ε β} {xs : List α} {ys : List β} (h : xs.mapM f = .ok ys) :
    ys.length = xs.length :=
  (mapM_forall₂ h).length_eq.symm

theorem mapM_isOk {f : α → Except ε β} {xs : List α} :
    (xs.mapM f).isOk = xs.all fun x => (f x).isOk := by
  induction xs with
  | nil => rfl
  | cons x xs ih =>
    rw [List.mapM_cons, List.all_cons, ← ih]
    cases f x with
    | error e => rfl
    | ok b =>
      cases xs.mapM f with
      | error e => rfl
      | ok values => rfl

end Outcome
