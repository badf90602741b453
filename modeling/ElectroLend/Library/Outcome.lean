import Mathlib.Tactic.Common

namespace Outcome

variable {ε α β : Type}

/-- A guard that aborts the computation with `e` unless `c` holds. -/
def require (c : Prop) [Decidable c] (e : ε) : Except ε Unit :=
  if c then .ok () else .error e

@[simp] theorem require_eq_ok {c : Prop} [Decidable c] {e : ε} {u : Unit} :
    require c e = .ok u ↔ c := by
  unfold require
  split <;> simp_all

theorem require_of {c : Prop} [Decidable c] {e : ε} (h : c) : require c e = .ok () :=
  require_eq_ok.mpr h

theorem require_else {c : Prop} [Decidable c] {e : ε} (h : ¬c) : require c e = .error e :=
  if_neg h

@[simp] theorem bind_eq_ok {x : Except ε α} {f : α → Except ε β} {b : β} :
    x >>= f = .ok b ↔ ∃ a, x = .ok a ∧ f a = .ok b := by
  cases x with
  | error e => simp [bind, Except.bind]
  | ok a => simp [bind, Except.bind]

@[simp] theorem ok_bind (a : α) (f : α → Except ε β) : (Except.ok a >>= f) = f a := rfl

@[simp] theorem pure_eq_ok {a b : α} : (pure a : Except ε α) = .ok b ↔ a = b := by
  simp [pure, Except.pure]

theorem map_eq_ok {x : Except ε α} {f : α → β} {b : β} :
    f <$> x = .ok b ↔ ∃ a, x = .ok a ∧ f a = b := by
  cases x with
  | error e => simp
  | ok a => simp

theorem ok_unique {x : Except ε α} {a b : α} (ha : x = .ok a) (hb : x = .ok b) : a = b := by
  rw [ha] at hb
  exact Except.ok.inj hb

/-- The computation succeeds with a result that passes the test. -/
def succeedsWith (x : Except ε α) (test : α → Bool) : Bool :=
  match x with
  | .ok a => test a
  | .error _ => false

theorem succeedsWith_iff {x : Except ε α} {test : α → Bool} :
    succeedsWith x test = true ↔ ∃ a, x = .ok a ∧ test a = true := by
  cases x with
  | error e => simp [succeedsWith]
  | ok a => simp [succeedsWith]

/-- The computation fails with the given error. -/
def failsWith [DecidableEq ε] (x : Except ε α) (e : ε) : Bool :=
  match x with
  | .ok _ => false
  | .error e' => e' = e

theorem failsWith_iff [DecidableEq ε] {x : Except ε α} {e : ε} :
    failsWith x e = true ↔ x = .error e := by
  cases x with
  | error e' => simp [failsWith]
  | ok a => simp [failsWith]

theorem exists_of_isOk {x : Except ε α} (h : x.isOk = true) : ∃ a, x = .ok a := by
  cases x with
  | error e => cases h
  | ok a => exact ⟨a, rfl⟩

theorem mapError_eq_ok {ε' : Type} {x : Except ε α} {f : ε → ε'} {a : α} :
    x.mapError f = .ok a ↔ x = .ok a := by
  cases x with
  | error e => simp [Except.mapError]
  | ok b => simp [Except.mapError]

theorem ite_eq_ok {c : Prop} [Decidable c] {x y : Except ε α} {a : α} :
    (if c then x else y) = .ok a ↔ (c ∧ x = .ok a) ∨ (¬c ∧ y = .ok a) := by
  split <;> simp_all

/-- The computation does not fail with this error; it may fail with others. -/
def Avoids (e : ε) (x : Except ε α) : Prop := x ≠ .error e

theorem avoids_ok (e : ε) (a : α) : Avoids e (.ok a) := by
  intro h
  cases h

theorem avoids_bind {e : ε} {x : Except ε α} {f : α → Except ε β} (hx : Avoids e x)
    (hf : ∀ a, x = .ok a → Avoids e (f a)) : Avoids e (x >>= f) := by
  cases x with
  | error e' => exact fun h => hx (congrArg Except.error (Except.error.inj h))
  | ok a => exact hf a rfl

theorem avoids_require {e e' : ε} {c : Prop} [Decidable c] (hne : e' ≠ e) :
    Avoids e (require c e') := by
  unfold require
  split
  · exact avoids_ok e ()
  · exact fun h => hne (Except.error.inj h)

theorem avoids_ite {e : ε} {c : Prop} [Decidable c] {x y : Except ε α} (hx : c → Avoids e x)
    (hy : ¬c → Avoids e y) : Avoids e (if c then x else y) := by
  split
  · exact hx ‹_›
  · exact hy ‹_›

end Outcome
