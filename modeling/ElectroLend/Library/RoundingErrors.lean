import ElectroLend.Library.HalfUp
import Mathlib.Algebra.Order.Field.Rat
import Mathlib.Tactic.FieldSimp
import Mathlib.Tactic.Positivity

namespace HalfUp

/-- A quotient rounded to the nearest integer is off by a half at most. -/
theorem abs_sub_le {d : Nat} (hd : 0 < d) (n : Nat) : |(halfUp n d : ℚ) - n / d| ≤ 1 / 2 := by
  obtain ⟨low, high⟩ := two_mul_bounds n hd
  have hd' : (0 : ℚ) < d := by exact_mod_cast hd
  have above : 2 * ((d : ℚ) * halfUp n d) ≤ 2 * n + d := by exact_mod_cast low
  have below : 2 * (n : ℚ) ≤ 2 * (d * halfUp n d) + d := by
    exact_mod_cast Nat.lt_succ_iff.mp high
  have error : (halfUp n d : ℚ) - n / d = (d * halfUp n d - n) / d := by field_simp
  rw [error, abs_le, le_div_iff₀ hd', div_le_iff₀ hd']
  constructor
  · linarith
  · linarith

/-- An index raised by the ratio of an amount to a supply, both rounded, raises the value of the
supply by the amount at that index, up to the roundings. -/
theorem credit_error {unit supply amount index ratio index' value value' : ℚ} (hu : 0 < unit)
    (hs : 0 < supply) (hi : unit ≤ index)
    (hratio : |ratio - amount * unit / supply| ≤ 1 / 2)
    (hindex : |index' - (ratio + unit) * index / unit| ≤ 1 / 2)
    (hvalue : |value - supply * index / unit| ≤ 1 / 2)
    (hvalue' : |value' - supply * index' / unit| ≤ 1 / 2) :
    |value' - value - amount * index / unit| ≤ supply * index / unit ^ 2 + 1 := by
  have split : value' - value - amount * index / unit =
      (value' - supply * index' / unit) - (value - supply * index / unit) +
        supply / unit * (index' - (ratio + unit) * index / unit) +
        supply * index / unit ^ 2 * (ratio - amount * unit / supply) := by
    field_simp
    ring
  have hindexes : 0 < index := lt_of_lt_of_le hu hi
  have first : |supply / unit * (index' - (ratio + unit) * index / unit)| ≤
      supply / unit * (1 / 2) := by
    rw [abs_mul, abs_of_pos (by positivity)]
    exact mul_le_mul_of_nonneg_left hindex (by positivity)
  have second : |supply * index / unit ^ 2 * (ratio - amount * unit / supply)| ≤
      supply * index / unit ^ 2 * (1 / 2) := by
    rw [abs_mul, abs_of_pos (by positivity)]
    exact mul_le_mul_of_nonneg_left hratio (by positivity)
  have scaled : supply / unit ≤ supply * index / unit ^ 2 := by
    rw [div_le_div_iff₀ hu (by positivity)]
    calc supply * unit ^ 2 = supply * unit * unit := by ring
      _ ≤ supply * index * unit := by
        exact mul_le_mul_of_nonneg_right (mul_le_mul_of_nonneg_left hi hs.le) hu.le
  rw [split]
  rw [abs_le] at hvalue hvalue' first second ⊢
  constructor
  · linarith [hvalue.2, hvalue'.1, first.1, second.1]
  · linarith [hvalue.1, hvalue'.2, first.2, second.2]

end HalfUp
