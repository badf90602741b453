import Mathlib.Tactic.Common
import Mathlib.Tactic.Ring

namespace BitField

variable {n start width value : Nat}

/-- Ones everywhere but in the field of `width` bits at `start`. -/
def mask (n start width : Nat) : BitVec n := ~~~(BitVec.ofNat n (2 ^ width - 1) <<< start)

def read (word mask : BitVec n) (start : Nat) : Nat := ((word &&& ~~~mask) >>> start).toNat

def write (word mask : BitVec n) (start value : Nat) : BitVec n :=
  (word &&& mask) ||| (BitVec.ofNat n value <<< start)

theorem mask_getLsbD (i : Nat) :
    (mask n start width).getLsbD i = (decide (i < n) && !decide (start ≤ i ∧ i < start + width)) := by
  unfold mask
  rw [BitVec.getLsbD_not, BitVec.getLsbD_shiftLeft, BitVec.getLsbD_ofNat, Nat.testBit_two_pow_sub_one]
  by_cases hi : i < n
  · by_cases hs : i < start
    · have hout : ¬(start ≤ i ∧ i < start + width) := by omega
      simp [hi, hs, hout]
    · have hsub : i - start < n := by omega
      have hw : i - start < width ↔ start ≤ i ∧ i < start + width := by omega
      simp only [hi, hs, hsub, hw, decide_true, decide_false, Bool.true_and, Bool.not_false]
  · simp [hi]

theorem read_testBit (word : BitVec n) (j : Nat) :
    (read word (mask n start width) start).testBit j =
      (word.getLsbD (start + j) && decide (j < width)) := by
  unfold read
  rw [BitVec.testBit_toNat, BitVec.getLsbD_ushiftRight, BitVec.getLsbD_and, BitVec.getLsbD_not,
    mask_getLsbD]
  by_cases hi : start + j < n
  · simp [hi]
  · simp [BitVec.getLsbD_of_ge word (start + j) (by omega)]

theorem write_getLsbD (word : BitVec n) (hn : start + width ≤ n) (hv : value < 2 ^ width) (i : Nat) :
    (write word (mask n start width) start value).getLsbD i =
      if start ≤ i ∧ i < start + width then value.testBit (i - start) else word.getLsbD i := by
  unfold write
  rw [BitVec.getLsbD_or, BitVec.getLsbD_and, BitVec.getLsbD_shiftLeft, BitVec.getLsbD_ofNat,
    mask_getLsbD]
  split
  next hin =>
    have hi : i < n := by omega
    have hs : ¬i < start := by omega
    have hsub : i - start < n := by omega
    simp [hi, hs, hsub, hin]
  next hout =>
    by_cases hi : i < n
    · by_cases hs : i < start
      · simp [hi, hs, hout]
      · have hlow : value < 2 ^ (i - start) :=
          Nat.lt_of_lt_of_le hv (Nat.pow_le_pow_right (by decide) (by omega))
        simp [hi, hout, Nat.testBit_lt_two_pow hlow]
    · simp [hi, BitVec.getLsbD_of_ge word i (by omega)]

theorem read_lt (word : BitVec n) : read word (mask n start width) start < 2 ^ width := by
  apply Nat.lt_pow_two_of_testBit
  intro j hj
  have hout : ¬j < width := by omega
  rw [read_testBit, decide_eq_false hout, Bool.and_false]

theorem read_write_same (word : BitVec n) (hn : start + width ≤ n) (hv : value < 2 ^ width) :
    read (write word (mask n start width) start value) (mask n start width) start = value := by
  apply Nat.eq_of_testBit_eq
  intro j
  rw [read_testBit, write_getLsbD word hn hv]
  by_cases hj : j < width
  · simp [hj]
  · have hlow : value < 2 ^ j := Nat.lt_of_lt_of_le hv (Nat.pow_le_pow_right (by decide) (by omega))
    simp [hj, Nat.testBit_lt_two_pow hlow]

theorem read_write_other {start' width' : Nat} (word : BitVec n) (hn : start + width ≤ n)
    (hv : value < 2 ^ width) (apart : start' + width' ≤ start ∨ start + width ≤ start') :
    read (write word (mask n start width) start value) (mask n start' width') start' =
      read word (mask n start' width') start' := by
  apply Nat.eq_of_testBit_eq
  intro j
  rw [read_testBit, read_testBit, write_getLsbD word hn hv]
  by_cases hj : j < width'
  · rw [if_neg (by omega)]
  · simp [hj]

theorem write_getLsbD_outside (word : BitVec n) (hn : start + width ≤ n) (hv : value < 2 ^ width)
    {i : Nat} (outside : ¬(start ≤ i ∧ i < start + width)) :
    (write word (mask n start width) start value).getLsbD i = word.getLsbD i := by
  rw [write_getLsbD word hn hv, if_neg outside]

theorem read_eq_zero (word : BitVec n) :
    read word (mask n start width) start = 0 ↔ word &&& ~~~mask n start width = 0 := by
  constructor
  · intro hz
    apply BitVec.eq_of_getLsbD_eq
    intro i hi
    rw [BitVec.getLsbD_and, BitVec.getLsbD_not, mask_getLsbD]
    by_cases hin : start ≤ i ∧ i < start + width
    · have hbit : (read word (mask n start width) start).testBit (i - start) = _ :=
        read_testBit word (i - start)
      have hwidth : i - start < width := by omega
      rw [hz, Nat.zero_testBit, show start + (i - start) = i by omega] at hbit
      simp [hwidth] at hbit
      simp [hbit]
    · simp [hi, hin]
  · intro hz
    rw [read, hz]
    simp

end BitField
