import ElectroLend.Library.HalfUp

namespace KinkedCurve

variable {unit optimal slope slope₁ slope₂ u u' : Nat}

/-- How far beyond the kink, as a part of what is there beyond it. -/
def excess (unit optimal u : Nat) : Nat := halfUp ((u - optimal) * unit) (unit - optimal)

/-- The curve whose first segment divides by the kink before it multiplies by the slope. -/
def divideFirst (unit optimal slope₁ slope₂ u : Nat) : Nat :=
  if u > optimal then slope₁ + halfUp (slope₂ * excess unit optimal u) unit
  else halfUp (slope₁ * halfUp (u * unit) optimal) unit

/-- The curve whose first segment multiplies by the slope before it divides by the kink. -/
def multiplyFirst (unit optimal slope₁ slope₂ u : Nat) : Nat :=
  if u > optimal then slope₁ + halfUp (slope₂ * excess unit optimal u) unit
  else halfUp (halfUp (u * slope₁) unit * unit) optimal

theorem part_le {ratio : Nat} (hu : 0 < unit) (h : ratio ≤ unit) :
    halfUp (slope * ratio) unit ≤ slope :=
  HalfUp.le_of_le_mul (Nat.mul_le_mul_left slope h) hu

theorem excess_le (h : optimal < u) (hu : u ≤ unit) : excess unit optimal u ≤ unit := by
  have hpos : 0 < unit - optimal := by omega
  refine HalfUp.le_of_le_mul ?_ hpos
  rw [Nat.mul_comm unit]
  exact Nat.mul_le_mul_right unit (by omega)

theorem excess_mono (h : u ≤ u') : excess unit optimal u ≤ excess unit optimal u' :=
  HalfUp.mono (Nat.mul_le_mul_right unit (by omega))

theorem beyond_bounds (h : optimal < u) (hu : u ≤ unit) (slope₁ slope₂ : Nat) :
    slope₁ ≤ slope₁ + halfUp (slope₂ * excess unit optimal u) unit ∧
      slope₁ + halfUp (slope₂ * excess unit optimal u) unit ≤ slope₁ + slope₂ := by
  have part : halfUp (slope₂ * excess unit optimal u) unit ≤ slope₂ :=
    part_le (by omega) (excess_le h hu)
  omega

theorem beyond_mono (h : u ≤ u') :
    halfUp (slope₂ * excess unit optimal u) unit ≤ halfUp (slope₂ * excess unit optimal u') unit :=
  HalfUp.mono (Nat.mul_le_mul_left slope₂ (excess_mono h))

theorem divideFirst_le (hu : 0 < unit) (ho : 0 < optimal) (h : u ≤ optimal) :
    divideFirst unit optimal slope₁ slope₂ u ≤ slope₁ := by
  have ratio : halfUp (u * unit) optimal ≤ unit := by
    refine HalfUp.le_of_le_mul ?_ ho
    rw [Nat.mul_comm unit]
    exact Nat.mul_le_mul_right unit h
  rw [divideFirst, if_neg (Nat.not_lt.mpr h)]
  exact part_le hu ratio

/-- Up to the kink, multiplying first exceeds the first slope by the rounding of the product at
most, which the division magnifies. -/
theorem multiplyFirst_le (hu : 0 < unit) (ho : 0 < optimal) (h : u ≤ optimal) :
    2 * optimal * multiplyFirst unit optimal slope₁ slope₂ u ≤
      2 * optimal * slope₁ + unit + optimal := by
  have product := (HalfUp.two_mul_bounds (u * slope₁) hu).1
  have quotient := (HalfUp.two_mul_bounds (halfUp (u * slope₁) unit * unit) ho).1
  have below := Nat.mul_le_mul_right slope₁ h
  rw [multiplyFirst, if_neg (Nat.not_lt.mpr h), Nat.mul_assoc, Nat.mul_assoc]
  rw [Nat.mul_comm (halfUp (u * slope₁) unit) unit] at quotient ⊢
  omega

theorem multiplyFirst_le_slope (hu : 0 < unit) (ho : 0 < optimal) (h : u ≤ optimal) :
    multiplyFirst unit optimal slope₁ slope₂ u ≤ slope₁ + (unit / (2 * optimal) + 1) := by
  have bound : 2 * optimal * multiplyFirst unit optimal slope₁ slope₂ u ≤
      2 * optimal * slope₁ + unit + optimal := multiplyFirst_le hu ho h
  have floor := Nat.lt_mul_div_succ unit (show 0 < 2 * optimal by omega)
  by_contra hlt
  have more := Nat.mul_le_mul_left (2 * optimal) (Nat.succ_le_of_lt (Nat.lt_of_not_le hlt))
  rw [Nat.succ_eq_add_one, Nat.mul_add, Nat.mul_add (2 * optimal) slope₁] at more
  omega

theorem divideFirst_mono (hu : 0 < unit) (h : u ≤ u') (ho : u ≤ optimal → 0 < optimal) :
    divideFirst unit optimal slope₁ slope₂ u ≤ divideFirst unit optimal slope₁ slope₂ u' := by
  by_cases hk : optimal < u
  · rw [divideFirst, divideFirst, if_pos hk, if_pos (by omega)]
    exact Nat.add_le_add_left (beyond_mono h) slope₁
  · have hle := Nat.le_of_not_lt hk
    by_cases hk' : optimal < u'
    · have before : divideFirst unit optimal slope₁ slope₂ u ≤ slope₁ :=
        divideFirst_le hu (ho hle) hle
      rw [divideFirst.eq_def _ _ _ _ u', if_pos hk']
      omega
    · rw [divideFirst, divideFirst, if_neg hk, if_neg hk']
      exact HalfUp.mono (Nat.mul_le_mul_left slope₁ (HalfUp.mono (Nat.mul_le_mul_right unit h)))

/-- The curve that multiplies first is monotone on both segments; at the kink it may step down by
the magnified rounding. -/
theorem multiplyFirst_mono (hu : 0 < unit) (ho : 0 < optimal) (h : u ≤ u') :
    multiplyFirst unit optimal slope₁ slope₂ u ≤
      multiplyFirst unit optimal slope₁ slope₂ u' + (unit / (2 * optimal) + 1) := by
  by_cases hk : optimal < u
  · rw [multiplyFirst, multiplyFirst, if_pos hk, if_pos (by omega)]
    exact (Nat.add_le_add_left (beyond_mono h) slope₁).trans (Nat.le_add_right _ _)
  · have hle := Nat.le_of_not_lt hk
    by_cases hk' : optimal < u'
    · have before : multiplyFirst unit optimal slope₁ slope₂ u ≤
          slope₁ + (unit / (2 * optimal) + 1) := multiplyFirst_le_slope hu ho hle
      rw [multiplyFirst.eq_def _ _ _ _ u', if_pos hk']
      omega
    · have mono : halfUp (halfUp (u * slope₁) unit * unit) optimal ≤
          halfUp (halfUp (u' * slope₁) unit * unit) optimal :=
        HalfUp.mono (Nat.mul_le_mul_right unit (HalfUp.mono (Nat.mul_le_mul_right slope₁ h)))
      rw [multiplyFirst, multiplyFirst, if_neg hk, if_neg hk']
      exact mono.trans (Nat.le_add_right _ _)

end KinkedCurve
