import Mathlib.Tactic.Linarith
import Mathlib.Tactic.Ring
import Mathlib.Tactic.Common

/-- The quotient `n / d` rounded to the nearest integer, ties upwards. -/
def halfUp (n d : Nat) : Nat := (n + d / 2) / d

namespace HalfUp

variable {n m d q unit index : Nat}

theorem mul_le (n : Nat) (d : Nat) : d * halfUp n d ≤ n + d / 2 := Nat.mul_div_le _ _

theorem lt_mul_succ (n : Nat) (hd : 0 < d) : n + d / 2 < d * (halfUp n d + 1) :=
  Nat.lt_mul_div_succ _ hd

theorem eq_iff (hd : 0 < d) : halfUp n d = q ↔ d * q ≤ n + d / 2 ∧ n + d / 2 < d * (q + 1) := by
  constructor
  · rintro rfl
    exact ⟨mul_le n d, lt_mul_succ n hd⟩
  · rintro ⟨low, high⟩
    apply Nat.div_eq_of_lt_le
    · rwa [Nat.mul_comm]
    · rwa [Nat.mul_comm]

theorem mono (h : n ≤ m) : halfUp n d ≤ halfUp m d :=
  Nat.div_le_div_right (by omega)

theorem div_le_add_div {a b m d : Nat} (h : m ≤ a + b) : m / d ≤ a / d + b / d + 1 := by
  obtain rfl | hd := Nat.eq_zero_or_pos d
  · simp
  · have ha := Nat.lt_mul_div_succ a hd
    have hb := Nat.lt_mul_div_succ b hd
    rw [Nat.div_le_iff_le_mul_add_pred hd]
    rw [Nat.mul_add] at ha hb
    rw [Nat.mul_add, Nat.mul_add]
    omega

theorem add_le (n m : Nat) : halfUp (n + m) d ≤ halfUp n d + m / d + 1 :=
  div_le_add_div (by omega)

theorem anti_right {d' : Nat} (hd : 0 < d) (h : d ≤ d') (n : Nat) : halfUp n d' ≤ halfUp n d := by
  have low := mul_le n d'
  have high := lt_mul_succ n hd
  by_contra hlt
  have hmul : d * (halfUp n d + 1) ≤ d * halfUp n d' := Nat.mul_le_mul_left d (by omega)
  have hpos : 1 ≤ halfUp n d' := by omega
  have hsplit : d * halfUp n d' + (d' - d) ≤ d' * halfUp n d' := by
    obtain ⟨k, rfl⟩ := Nat.exists_eq_add_of_le h
    rw [Nat.add_sub_cancel_left, Nat.add_mul]
    exact Nat.add_le_add_left (Nat.le_mul_of_pos_right k hpos) _
  omega

@[simp] theorem zero_left (d : Nat) : halfUp 0 d = 0 := by
  rcases Nat.eq_zero_or_pos d with rfl | hd
  · simp [halfUp]
  · exact Nat.div_eq_of_lt (by omega)

theorem ne_zero_iff (hd : 0 < d) : halfUp n d ≠ 0 ↔ d ≤ n + d / 2 := by
  unfold halfUp
  rw [Nat.ne_zero_iff_zero_lt, Nat.div_pos_iff]
  exact ⟨fun h => h.2, fun h => ⟨hd, h⟩⟩

theorem mul_self_left (q : Nat) (hd : 0 < d) : halfUp (q * d) d = q := by
  refine (eq_iff hd).mpr ⟨?_, ?_⟩
  · rw [Nat.mul_comm]; omega
  · rw [Nat.mul_add, Nat.mul_comm q d]; omega

/-- Twice the error is at most the divisor, from above and from below. -/
theorem two_mul_bounds (n : Nat) (hd : 0 < d) :
    2 * (d * halfUp n d) ≤ 2 * n + d ∧ 2 * n < 2 * (d * halfUp n d) + d + 1 := by
  have low := mul_le n d
  have high := lt_mul_succ n hd
  rw [Nat.mul_add] at high
  omega

theorem le_of_le_mul (h : n ≤ q * d) (hd : 0 < d) : halfUp n d ≤ q :=
  (mono h).trans_eq (mul_self_left q hd)

theorem le_of_mul_le (h : q * d ≤ n) (hd : 0 < d) : q ≤ halfUp n d :=
  (mul_self_left q hd).symm.trans_le (mono h)

theorem le_iff (hd : 0 < d) : halfUp n d ≤ q ↔ n + d / 2 < q * d + d := by
  rw [← Nat.lt_succ_iff, ← Nat.succ_mul]
  exact Nat.div_lt_iff_lt_mul hd

theorem ge_iff (hd : 0 < d) : q ≤ halfUp n d ↔ q * d ≤ n + d / 2 := Nat.le_div_iff_mul_le hd

/-- An amount that needs no more than the whole at a share is within the share of the whole. -/
theorem le_mul_of_div_le {amount share whole : Nat} (hs : 0 < share) (hle : share ≤ unit)
    (h : halfUp (amount * unit) share ≤ whole) : amount ≤ halfUp (whole * share) unit := by
  rw [le_iff hs] at h
  rw [ge_iff (show 0 < unit by omega)]
  omega

/-- What an amount needs at a share, and the amount that the share allows, decide alike unless the
amount exceeds the exact product by at least half a share and at most half a unit. -/
theorem div_le_iff_le_mul_iff {amount share whole : Nat} (hs : 0 < share) (hle : share ≤ unit) :
    (halfUp (amount * unit) share ≤ whole ↔ amount ≤ halfUp (whole * share) unit) ↔
      ¬(whole * share + (share + 1) / 2 ≤ amount * unit ∧
        amount * unit ≤ whole * share + unit / 2) := by
  rw [le_iff hs, ge_iff (show 0 < unit by omega)]
  omega

theorem mul_right_cancel {k : Nat} (hk : 0 < k) (heven : d % 2 = 0) (n : Nat) :
    halfUp (n * k) (d * k) = halfUp n d := by
  have half : d * k / 2 = d / 2 * k := by
    rw [Nat.mul_comm, Nat.mul_div_assoc k (Nat.dvd_of_mod_eq_zero heven), Nat.mul_comm]
  unfold halfUp
  rw [half, ← Nat.add_mul, Nat.mul_div_mul_right _ _ hk]

theorem le_mul_index (hu : 0 < unit) (hi : unit ≤ index) (s : Nat) :
    s ≤ halfUp (s * index) unit :=
  le_of_mul_le (Nat.mul_le_mul_left s hi) hu

theorem div_index_le (hu : 0 < unit) (hi : unit ≤ index) (a : Nat) :
    halfUp (a * unit) index ≤ a :=
  le_of_le_mul (Nat.mul_le_mul_left a hi) (by omega)

theorem add_scaled_le {amount k : Nat} (hu : 0 < unit) (hk : halfUp (amount * unit) index = k)
    (s : Nat) :
    halfUp ((s + k) * index) unit ≤
      halfUp (s * index) unit + amount + (index / (2 * unit) + 1) := by
  have whole := mul_le ((s + k) * index) unit
  have bought := mul_le (amount * unit) index
  have before := lt_mul_succ (s * index) hu
  have half := Nat.lt_mul_div_succ index (show 0 < 2 * unit by omega)
  rw [hk, Nat.mul_comm index k] at bought
  rw [Nat.mul_assoc] at half
  rw [Nat.add_mul] at whole ⊢
  by_contra hlt
  have more : halfUp (s * index) unit + 1 + amount + (index / (2 * unit) + 1) ≤
      halfUp (s * index + k * index) unit := by omega
  have product := Nat.mul_le_mul_left unit more
  rw [Nat.mul_add, Nat.mul_add, Nat.mul_comm unit amount] at product
  omega

theorem add_scaled_ge {amount k : Nat} (hu : 0 < unit) (hi : 0 < index)
    (hk : halfUp (amount * unit) index = k) (s : Nat) :
    halfUp (s * index) unit + amount ≤
      halfUp ((s + k) * index) unit + (index / (2 * unit) + 1) := by
  have whole := lt_mul_succ ((s + k) * index) hu
  have bought := lt_mul_succ (amount * unit) hi
  have before := mul_le (s * index) unit
  have half := Nat.lt_mul_div_succ index (show 0 < 2 * unit by omega)
  rw [hk, Nat.mul_add, Nat.mul_comm index k] at bought
  rw [Nat.mul_assoc] at half
  rw [Nat.add_mul] at whole ⊢
  by_contra hlt
  have less : halfUp (s * index + k * index) unit + 1 + (index / (2 * unit) + 1) ≤
      halfUp (s * index) unit + amount := by omega
  have product := Nat.mul_le_mul_left unit less
  rw [Nat.mul_add, Nat.mul_add unit (halfUp (s * index) unit), Nat.mul_comm unit amount] at product
  omega

/-- When an amount divided by an index comes within a slack of the amount itself. -/
theorem le_div_index_add_iff (hi : 0 < index) (amount slack : Nat) :
    amount ≤ halfUp (amount * unit) index + slack ↔
      amount * (index - unit) ≤ slack * index + index / 2 := by
  have floor := Nat.le_div_iff_mul_le hi (x := amount - slack) (y := amount * unit + index / 2)
  unfold halfUp
  generalize (amount * unit + index / 2) / index = scaled at floor ⊢
  rw [Nat.sub_mul] at floor
  rw [Nat.mul_sub]
  omega

/-- An average of two rates, each weighed with rounding, exceeds the larger of them only by what the
roundings of the two products are worth. -/
theorem average_le {x y r s : Nat} (hu : 0 < unit) (hw : 0 < x + y) :
    halfUp ((halfUp (x * r) unit + halfUp (y * s) unit) * unit) (x + y) ≤
      max r s + (unit / (x + y) + 1) := by
  have first := (two_mul_bounds (x * r) hu).1
  have second := (two_mul_bounds (y * s) hu).1
  have quotient := (two_mul_bounds ((halfUp (x * r) unit + halfUp (y * s) unit) * unit) hw).1
  have floor := Nat.lt_mul_div_succ unit hw
  have largest : x * r + y * s ≤ (x + y) * max r s := by
    rw [Nat.add_mul]
    exact Nat.add_le_add (Nat.mul_le_mul_left x (Nat.le_max_left r s))
      (Nat.mul_le_mul_left y (Nat.le_max_right r s))
  generalize halfUp (x * r) unit = p at first quotient ⊢
  generalize halfUp (y * s) unit = q at second quotient ⊢
  generalize halfUp ((p + q) * unit) (x + y) = average at quotient ⊢
  rw [Nat.add_mul p, Nat.mul_comm p, Nat.mul_comm q] at quotient
  by_contra hlt
  have more := Nat.mul_le_mul_left (x + y) (Nat.succ_le_of_lt (Nat.lt_of_not_le hlt))
  rw [Nat.succ_eq_add_one, Nat.mul_add, Nat.mul_add (x + y) (max r s), Nat.mul_one] at more
  omega

/-- What a rate on a part earns on the whole is what it earns on the part, but for the roundings of
the part and of the product. -/
theorem spread_mul_le {whole : Nat} (hu : 0 < unit) (hw : 0 < whole) (rate part : Nat) :
    halfUp (rate * halfUp (part * unit) whole) unit * whole ≤
      rate * part + whole * (rate / unit + 1) := by
  have share := (two_mul_bounds (part * unit) hw).1
  have product := (two_mul_bounds (rate * halfUp (part * unit) whole) hu).1
  have floor := Nat.lt_mul_div_succ rate hu
  generalize halfUp (part * unit) whole = u at share product ⊢
  generalize halfUp (rate * u) unit = spread at product ⊢
  generalize rate / unit = units at floor ⊢
  have scaled : 2 * (rate * (whole * u)) ≤ 2 * (rate * (part * unit)) + rate * whole := by
    have := Nat.mul_le_mul_left rate share
    rw [Nat.mul_add] at this
    linarith
  have total : 2 * unit * (spread * whole) ≤
      2 * (rate * (part * unit)) + rate * whole + unit * whole := by
    have := Nat.mul_le_mul_right whole product
    linarith
  have room : rate * whole + unit * whole ≤ 2 * unit * (whole * (units + 1)) := by
    have rates := Nat.mul_le_mul_right whole (Nat.le_of_lt floor)
    have once := Nat.le_mul_of_pos_right (unit * whole) (Nat.succ_pos units)
    rw [Nat.succ_eq_add_one] at once
    linarith
  have scale : 0 < 2 * unit := by omega
  refine Nat.le_of_mul_le_mul_left ?_ scale
  linarith

/-- The two amounts differ by no more than the slack. -/
def Within (slack a b : Nat) : Prop := a ≤ b + slack ∧ b ≤ a + slack

instance (slack a b : Nat) : Decidable (Within slack a b) := inferInstanceAs (Decidable (_ ∧ _))

theorem within_add_scaled {amount k : Nat} (hu : 0 < unit) (hi : 0 < index)
    (hk : halfUp (amount * unit) index = k) (s : Nat) :
    Within (index / (2 * unit) + 1) (halfUp ((s + k) * index) unit)
      (halfUp (s * index) unit + amount) :=
  ⟨add_scaled_le hu hk s, add_scaled_ge hu hi hk s⟩

theorem round_trip (half : Nat) (hu : unit = 2 * half) (hpos : 0 < half) (hi : unit ≤ index)
    (s : Nat) : halfUp (halfUp (s * index) unit * unit) index = s := by
  have hunit : 0 < unit := by omega
  have low := mul_le (s * index) unit
  have high := lt_mul_succ (s * index) hunit
  have hhalf : unit / 2 = half := by omega
  rw [Nat.mul_add, hhalf] at high
  rw [hhalf] at low
  generalize halfUp (s * index) unit = scaled at low high ⊢
  refine (eq_iff (by omega)).mpr ⟨?_, ?_⟩
  · rw [Nat.mul_comm index s, Nat.mul_comm scaled unit]
    omega
  · rw [Nat.mul_add, Nat.mul_comm index s, Nat.mul_comm scaled unit]
    rcases Nat.eq_or_lt_of_le hi with rfl | hlt
    · -- at index one unit there is no tie: the product is a multiple of the unit
      have exact : unit * scaled ≤ s * unit := by
        by_contra hgt
        have hs : s < scaled := by
          by_contra hle
          exact hgt (by rw [Nat.mul_comm]; exact Nat.mul_le_mul_right _ (by omega))
        have := Nat.mul_le_mul_right unit (Nat.succ_le_of_lt hs)
        rw [Nat.succ_mul, Nat.mul_comm scaled] at this
        omega
      omega
    · omega

/-- Scaling up by a larger index than the one used to scale down loses nothing. -/
theorem le_round_trip_of_le (half : Nat) (hu : unit = 2 * half) (hpos : 0 < half)
    (hi : unit ≤ index) {larger : Nat} (hl : index ≤ larger) (s : Nat) :
    s ≤ halfUp (halfUp (s * larger) unit * unit) index := by
  have up : halfUp (s * index) unit ≤ halfUp (s * larger) unit := mono (Nat.mul_le_mul_left s hl)
  calc s = halfUp (halfUp (s * index) unit * unit) index := (round_trip half hu hpos hi s).symm
    _ ≤ halfUp (halfUp (s * larger) unit * unit) index := mono (Nat.mul_le_mul_right unit up)

end HalfUp
