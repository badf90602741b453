import ElectroLend.Library.HalfUp
import Mathlib.Data.Nat.Choose.Vandermonde

namespace TruncatedBinomial

variable {unit x y n m : Nat}

/-- The square of `x / unit`, rounded. -/
def square (unit x : Nat) : Nat := halfUp (x * x) unit

/-- The cube of `x / unit`, rounded from the rounded square. -/
def cube (unit x : Nat) : Nat := halfUp (square unit x * x) unit

/-- The first four terms of the power `(1 + x / unit) ^ n`. -/
def power (unit x n : Nat) : Nat :=
  unit + x * n + n.choose 2 * square unit x + n.choose 3 * cube unit x

theorem square_mono (unit : Nat) (h : x ≤ y) : square unit x ≤ square unit y :=
  HalfUp.mono (Nat.mul_le_mul h h)

theorem cube_mono (unit : Nat) (h : x ≤ y) : cube unit x ≤ cube unit y :=
  HalfUp.mono (Nat.mul_le_mul (square_mono unit h) h)

theorem power_zero : power unit x 0 = unit := by simp [power]

theorem power_base_zero : power unit 0 n = unit := by
  simp [power, square, cube, HalfUp.zero_left]

theorem unit_le_power : unit ≤ power unit x n := by
  unfold power
  omega

theorem linear_le_power : unit + x * n ≤ power unit x n := by
  unfold power
  omega

theorem power_mono_base (h : x ≤ y) : power unit x n ≤ power unit y n := by
  have linear := Nat.mul_le_mul_right n h
  have quadratic := Nat.mul_le_mul_left (n.choose 2) (square_mono unit h)
  have cubic := Nat.mul_le_mul_left (n.choose 3) (cube_mono unit h)
  unfold power
  omega

theorem power_mono (h : n ≤ m) : power unit x n ≤ power unit x m := by
  have linear := Nat.mul_le_mul_left x h
  have quadratic := Nat.mul_le_mul_right (square unit x) (Nat.choose_le_choose 2 h)
  have cubic := Nat.mul_le_mul_right (cube unit x) (Nat.choose_le_choose 3 h)
  unfold power
  omega

theorem pairs_eq (n : Nat) : n * (n - 1) = 2 * n.choose 2 := by
  have h : n.descFactorial 2 = 2 * n.choose 2 := Nat.descFactorial_eq_factorial_mul_choose n 2
  rw [← h]
  simp only [Nat.descFactorial, Nat.sub_zero, Nat.mul_one]
  exact Nat.mul_comm _ _

theorem triples_eq (n : Nat) : n * (n - 1) * (n - 2) = 6 * n.choose 3 := by
  have h : n.descFactorial 3 = 6 * n.choose 3 := Nat.descFactorial_eq_factorial_mul_choose n 3
  rw [← h]
  simp only [Nat.descFactorial, Nat.sub_zero, Nat.mul_one]
  ring

theorem pairs_term (n b : Nat) : n * (n - 1) * b / 2 = n.choose 2 * b := by
  rw [pairs_eq, Nat.mul_assoc]
  exact Nat.mul_div_cancel_left _ (by decide)

theorem triples_term (n c : Nat) : n * (n - 1) * (n - 2) * c / 6 = n.choose 3 * c := by
  rw [triples_eq, Nat.mul_assoc]
  exact Nat.mul_div_cancel_left _ (by decide)

theorem add_choose_two (n m : Nat) : (n + m).choose 2 = n.choose 2 + n * m + m.choose 2 := by
  rw [Nat.add_choose_eq]
  simp [Finset.Nat.antidiagonal_succ]
  ring

theorem add_choose_three (n m : Nat) :
    (n + m).choose 3 = n.choose 3 + n.choose 2 * m + n * m.choose 2 + m.choose 3 := by
  rw [Nat.add_choose_eq]
  simp [Finset.Nat.antidiagonal_succ]
  ring

theorem mixed_eq (n m : Nat) :
    2 * (n * m + (n.choose 2 * m + n * m.choose 2)) = n * m * (n + m) := by
  have first := pairs_eq n
  have second := pairs_eq m
  obtain _ | n := n
  · simp
  obtain _ | m := m
  · simp
  simp only [Nat.add_sub_cancel] at first second
  calc 2 * ((n + 1) * (m + 1) + ((n + 1).choose 2 * (m + 1) + (n + 1) * (m + 1).choose 2))
      = 2 * ((n + 1) * (m + 1)) + (2 * (n + 1).choose 2 * (m + 1) +
          (n + 1) * (2 * (m + 1).choose 2)) := by ring
    _ = 2 * ((n + 1) * (m + 1)) + ((n + 1) * n * (m + 1) + (n + 1) * ((m + 1) * m)) := by
        rw [← first, ← second]
    _ = (n + 1) * (m + 1) * (n + 1 + (m + 1)) := by ring

/-- The product of two powers has every term of the power of the sum, with the exact square and
cube in the place of the rounded ones, and more. -/
theorem product_ge (unit x n m : Nat) :
    unit * (unit + x * (n + m) + (n.choose 2 + m.choose 2) * square unit x +
        (n.choose 3 + m.choose 3) * cube unit x) +
      (n * m * (x * x) + (n.choose 2 * m + n * m.choose 2) * (square unit x * x)) ≤
      power unit x n * power unit x m := by
  unfold power
  generalize square unit x = b
  generalize cube unit x = c
  generalize n.choose 2 = n₂
  generalize m.choose 2 = m₂
  generalize n.choose 3 = n₃
  generalize m.choose 3 = m₃
  calc _ ≤ unit * (unit + x * (n + m) + (n₂ + m₂) * b + (n₃ + m₃) * c) +
        (n * m * (x * x) + (n₂ * m + n * m₂) * (b * x)) +
        (x * n * (m₃ * c) + n₃ * c * (x * m) + (n₂ * b + n₃ * c) * (m₂ * b + m₃ * c)) :=
          Nat.le_add_right _ _
    _ = (unit + x * n + n₂ * b + n₃ * c) * (unit + x * m + m₂ * b + m₃ * c) := by ring

/-- A power taken in two steps falls short of the power taken at once by the rounding of the square
and of the cube only, each as often as the mixed coefficients say. -/
theorem power_add_le (hu : 0 < unit) (x n m : Nat) :
    4 * power unit x (n + m) ≤
      4 * halfUp (power unit x n * power unit x m) unit + (n * m * (n + m) + 2) := by
  have squares := (HalfUp.two_mul_bounds (x * x) hu).1
  have cubes := (HalfUp.two_mul_bounds (square unit x * x) hu).1
  have rounded := (HalfUp.two_mul_bounds (power unit x n * power unit x m) hu).2
  have product := product_ge unit x n m
  have mixed := mixed_eq n m
  have whole : power unit x (n + m) =
      unit + x * (n + m) + (n.choose 2 + m.choose 2) * square unit x +
        (n.choose 3 + m.choose 3) * cube unit x +
      (n * m * square unit x + (n.choose 2 * m + n * m.choose 2) * cube unit x) := by
    rw [power, add_choose_two, add_choose_three]
    ring
  rw [← square] at squares
  rw [← cube] at cubes
  generalize n.choose 2 * m + n * m.choose 2 = triples at product mixed whole
  generalize halfUp (power unit x n * power unit x m) unit = result at rounded ⊢
  have first := Nat.mul_le_mul_left (n * m) squares
  have second := Nat.mul_le_mul_left triples cubes
  have scaled : unit * (4 * power unit x (n + m)) ≤
      unit * (4 * result + (n * m * (n + m) + 2)) := by
    rw [whole, ← mixed]
    linarith
  exact Nat.le_of_mul_le_mul_left scaled hu

end TruncatedBinomial
