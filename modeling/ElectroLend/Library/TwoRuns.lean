import ElectroLend.Library.Outcome

namespace Outcome

variable {ε ε' α β γ δ : Type}

/-- Both computations fail with the same error, or both succeed with related results. -/
inductive Alike (R : α → β → Prop) : Except ε α → Except ε β → Prop
  | ok {a : α} {b : β} (related : R a b) : Alike R (.ok a) (.ok b)
  | error (e : ε) : Alike R (.error e) (.error e)

namespace Alike

variable {R : α → β → Prop} {S : γ → δ → Prop} {x : Except ε α} {y : Except ε β}

theorem left (h : Alike R x y) {a : α} (ha : x = .ok a) : ∃ b, y = .ok b ∧ R a b := by
  cases h with
  | ok related =>
    cases ha
    exact ⟨_, rfl, related⟩
  | error e => cases ha

theorem right (h : Alike R x y) {b : β} (hb : y = .ok b) : ∃ a, x = .ok a ∧ R a b := by
  cases h with
  | ok related =>
    cases hb
    exact ⟨_, rfl, related⟩
  | error e => cases hb

theorem mono {R' : α → β → Prop} (h : Alike R x y) (weaker : ∀ a b, R a b → R' a b) :
    Alike R' x y := by
  cases h with
  | ok related => exact .ok (weaker _ _ related)
  | error e => exact .error e

theorem of_eq {x y : Except ε α} (h : x = y) : Alike Eq x y := by
  subst h
  cases x with
  | error e => exact .error e
  | ok a => exact .ok rfl

theorem bind {f : α → Except ε γ} {g : β → Except ε δ} (h : Alike R x y)
    (hf : ∀ a b, R a b → Alike S (f a) (g b)) : Alike S (x >>= f) (y >>= g) := by
  cases h with
  | ok related => exact hf _ _ related
  | error e => exact .error e

theorem same {x : Except ε α} {f : α → Except ε γ} {g : α → Except ε δ}
    (hf : ∀ a, Alike S (f a) (g a)) : Alike S (x >>= f) (x >>= g) := by
  cases x with
  | error e => exact .error e
  | ok a => exact hf a

theorem map {f : α → γ} {g : β → δ} (h : Alike R x y) (hf : ∀ a b, R a b → S (f a) (g b)) :
    Alike S (f <$> x) (g <$> y) := by
  cases h with
  | ok related => exact .ok (hf _ _ related)
  | error e => exact .error e

theorem mapError (h : Alike R x y) (f : ε → ε') : Alike R (x.mapError f) (y.mapError f) := by
  cases h with
  | ok related => exact .ok related
  | error e => exact .error (f e)

theorem ite {x' : Except ε α} {y' : Except ε β} {c : Prop} [Decidable c] (h : c → Alike R x y)
    (h' : ¬c → Alike R x' y') : Alike R (if c then x else x') (if c then y else y') := by
  split
  · exact h ‹_›
  · exact h' ‹_›

end Alike

end Outcome
