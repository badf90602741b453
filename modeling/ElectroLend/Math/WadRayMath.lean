import ElectroLend.Errors
import ElectroLend.Library.HalfUp

namespace ElectroLend

open Outcome

def uint256Max : Nat := 2 ^ 256 - 1
def uint128Max : Nat := 2 ^ 128 - 1

/-- What an unchecked 256-bit operation leaves of its exact result. -/
def wrap (n : Nat) : Nat := n % 2 ^ 256

def uint128 (n : Nat) : Nat := n % 2 ^ 128
def uint40 (n : Nat) : Nat := n % 2 ^ 40
def uint8 (n : Nat) : Nat := n % 2 ^ 8

def SafeMath.add (a b : Nat) : Result Nat :=
  if a + b ≤ uint256Max then .ok (a + b) else .error .safeMathAdditionOverflow

def SafeMath.sub (a b : Nat) (errorMessage : Errors) : Result Nat :=
  if b ≤ a then .ok (a - b) else .error errorMessage

def SafeMath.mul (a b : Nat) : Result Nat :=
  if a * b ≤ uint256Max then .ok (a * b) else .error .safeMathMultiplicationOverflow

def SafeMath.div (a b : Nat) : Result Nat :=
  if 0 < b then .ok (a / b) else .error .safeMathDivisionByZero

theorem word_le_iff {n : Nat} : n ≤ uint256Max ↔ n < 2 ^ 256 := by
  unfold uint256Max
  omega

theorem wrap_eq_self {n : Nat} (h : n < 2 ^ 256) : wrap n = n := Nat.mod_eq_of_lt h

theorem SafeMath.add_eq_ok {a b c : Nat} :
    SafeMath.add a b = .ok c ↔ a + b ≤ uint256Max ∧ a + b = c := by
  unfold SafeMath.add
  split <;> simp_all

theorem SafeMath.sub_eq_ok {a b c : Nat} {e : Errors} :
    SafeMath.sub a b e = .ok c ↔ b ≤ a ∧ a - b = c := by
  unfold SafeMath.sub
  split <;> simp_all

theorem SafeMath.mul_eq_ok {a b c : Nat} :
    SafeMath.mul a b = .ok c ↔ a * b ≤ uint256Max ∧ a * b = c := by
  unfold SafeMath.mul
  split <;> simp_all

theorem SafeMath.div_eq_ok {a b c : Nat} :
    SafeMath.div a b = .ok c ↔ 0 < b ∧ a / b = c := by
  unfold SafeMath.div
  split <;> simp_all

def WAD : Nat := 10 ^ 18
def halfWAD : Nat := WAD / 2
def RAY : Nat := 10 ^ 27
def halfRAY : Nat := RAY / 2
def WAD_RAY_RATIO : Nat := 10 ^ 9

def wadMul (a b : Nat) : Result Nat :=
  if a = 0 ∨ b = 0 then .ok 0
  else do
    require (a ≤ (uint256Max - halfWAD) / b) .mathMultiplicationOverflow
    pure (wrap (wrap (a * b) + halfWAD) / WAD)

def wadDiv (a b : Nat) : Result Nat := do
  require (b ≠ 0) .mathDivisionByZero
  let halfB := b / 2
  require (a ≤ (uint256Max - halfB) / WAD) .mathMultiplicationOverflow
  pure (wrap (wrap (a * WAD) + halfB) / b)

def rayMul (a b : Nat) : Result Nat :=
  if a = 0 ∨ b = 0 then .ok 0
  else do
    require (a ≤ (uint256Max - halfRAY) / b) .mathMultiplicationOverflow
    pure (wrap (wrap (a * b) + halfRAY) / RAY)

def rayDiv (a b : Nat) : Result Nat := do
  require (b ≠ 0) .mathDivisionByZero
  let halfB := b / 2
  require (a ≤ (uint256Max - halfB) / RAY) .mathMultiplicationOverflow
  pure (wrap (wrap (a * RAY) + halfB) / b)

def rayToWad (a : Nat) : Result Nat := do
  let halfRatio := WAD_RAY_RATIO / 2
  let result := wrap (halfRatio + a)
  require (result ≥ halfRatio) .mathAdditionOverflow
  pure (result / WAD_RAY_RATIO)

def wadToRay (a : Nat) : Result Nat := do
  let result := wrap (a * WAD_RAY_RATIO)
  require (result / WAD_RAY_RATIO = a) .mathMultiplicationOverflow
  pure result

theorem RAY_pos : 0 < RAY := by decide

theorem RAY_eq_two_mul : RAY = 2 * halfRAY := by decide

/-- No product computed behind the guard has wrapped. -/
theorem wrap_guarded {a b half : Nat} (hb : 0 < b) (hh : half ≤ uint256Max)
    (h : a ≤ (uint256Max - half) / b) :
    a * b + half ≤ uint256Max ∧ wrap (wrap (a * b) + half) = a * b + half := by
  have hle : a * b ≤ uint256Max - half := (Nat.le_div_iff_mul_le hb).mp h
  have hsum : a * b + half ≤ uint256Max := by omega
  refine ⟨hsum, ?_⟩
  rw [wrap_eq_self (word_le_iff.mp (show a * b ≤ uint256Max by omega)),
    wrap_eq_self (word_le_iff.mp hsum)]

/-- Behind its guard a checked division is the exact rounded quotient; a divisor too large for a
word leaves only a zero numerator. -/
theorem guarded_div_eq {a b scale : Nat} (hs : 0 < scale) (hb : 0 < b)
    (hg : a ≤ (uint256Max - b / 2) / scale) :
    wrap (wrap (a * scale) + b / 2) / b = halfUp (a * scale) b := by
  by_cases hh : b / 2 ≤ uint256Max
  · rw [(wrap_guarded hs hh hg).2]; rfl
  · have hz : uint256Max - b / 2 = 0 := by omega
    have ha : a = 0 := by
      rw [hz, Nat.zero_div] at hg
      omega
    have hw : wrap (wrap 0 + b / 2) ≤ b / 2 := by
      unfold wrap
      rw [Nat.zero_mod, Nat.zero_add]
      exact Nat.mod_le _ _
    rw [ha, Nat.zero_mul, HalfUp.zero_left]
    exact Nat.div_eq_of_lt (by omega)

/-- The floor of the exact numerator over the divisor, when there is a divisor and the numerator
fits a word. -/
def exactQuotient (numerator divisor : Nat) (overflow : Errors) : Result Nat :=
  if divisor = 0 then .error .mathDivisionByZero
  else if 2 ^ 256 ≤ numerator then .error overflow
  else .ok (numerator / divisor)

/-- What `wadMul`, `rayMul` and `percentMul` have in common. -/
def mulHalfUp (half unit a b : Nat) : Result Nat :=
  if a = 0 ∨ b = 0 then .ok 0
  else do
    require (a ≤ (uint256Max - half) / b) .mathMultiplicationOverflow
    pure (wrap (wrap (a * b) + half) / unit)

/-- What `wadDiv`, `rayDiv` and `percentDiv` have in common. -/
def divHalfUp (unit a b : Nat) : Result Nat := do
  require (b ≠ 0) .mathDivisionByZero
  require (a ≤ (uint256Max - b / 2) / unit) .mathMultiplicationOverflow
  pure (wrap (wrap (a * unit) + b / 2) / b)

variable {a b c half unit : Nat}

theorem exactQuotient_eq_ok {numerator divisor : Nat} {overflow : Errors} :
    exactQuotient numerator divisor overflow = .ok c ↔
      divisor ≠ 0 ∧ numerator ≤ uint256Max ∧ numerator / divisor = c := by
  rw [word_le_iff]
  unfold exactQuotient
  by_cases hd : divisor = 0
  · simp [hd]
  · by_cases hn : 2 ^ 256 ≤ numerator
    · rw [if_neg hd, if_pos hn]
      constructor
      · intro h
        cases h
      · rintro ⟨_, hlt, _⟩
        exact absurd hn (Nat.not_le.mpr hlt)
    · rw [if_neg hd, if_neg hn, Except.ok.injEq]
      exact ⟨fun h => ⟨hd, Nat.lt_of_not_le hn, h⟩, fun h => h.2.2⟩

theorem exactQuotient_overflow {numerator divisor : Nat} {overflow : Errors} (hd : divisor ≠ 0)
    (hover : 2 ^ 256 ≤ numerator) : exactQuotient numerator divisor overflow = .error overflow := by
  unfold exactQuotient
  rw [if_neg hd, if_pos hover]

theorem guarded_eq {guard : Prop} [Decidable guard] {value numerator divisor : Nat}
    {overflow : Errors} (hd : divisor ≠ 0) (hguard : guard ↔ numerator < 2 ^ 256)
    (hvalue : guard → value = numerator / divisor) :
    (do require guard overflow; pure value) = exactQuotient numerator divisor overflow := by
  by_cases hg : guard
  · rw [require_of hg, eq_comm, ok_bind]
    exact exactQuotient_eq_ok.mpr ⟨hd, word_le_iff.mpr (hguard.mp hg), (hvalue hg).symm⟩
  · rw [require_else hg, exactQuotient_overflow hd (Nat.le_of_not_lt (mt hguard.mpr hg))]
    rfl

theorem le_div_guard_iff (hb : 0 < b) (hhalf : half ≤ uint256Max) :
    a ≤ (uint256Max - half) / b ↔ a * b + half < 2 ^ 256 := by
  rw [Nat.le_div_iff_mul_le hb, ← word_le_iff]
  omega

theorem wrap_add_guard_iff (ha : a < 2 ^ 256) (hhalf : half < 2 ^ 256) :
    half ≤ wrap (half + a) ↔ a + half < 2 ^ 256 := by
  rw [Nat.add_comm a]
  by_cases hover : 2 ^ 256 ≤ half + a
  · have hwrapped : wrap (half + a) = half + a - 2 ^ 256 := by
      unfold wrap
      rw [Nat.mod_eq_sub_mod hover]
      exact Nat.mod_eq_of_lt (by omega)
    omega
  · have hlt : half + a < 2 ^ 256 := Nat.lt_of_not_le hover
    rw [wrap_eq_self hlt]
    exact ⟨fun _ => hlt, fun _ => Nat.le_add_right half a⟩

/-- The division after the fact gives the factor back only when the product did not wrap. -/
theorem wrap_div_guard_iff (hu : 0 < unit) :
    wrap (a * unit) / unit = a ↔ a * unit < 2 ^ 256 := by
  constructor
  · intro hq
    have hlt : wrap (a * unit) < 2 ^ 256 := Nat.mod_lt (a * unit) (by decide)
    have hback := Nat.div_mul_le_self (wrap (a * unit)) unit
    rw [hq] at hback
    exact hback.trans_lt hlt
  · intro hlt
    rw [wrap_eq_self hlt]
    exact Nat.mul_div_cancel a hu

theorem mulHalfUp_eq (hlt : half < unit) (hhalf : half ≤ uint256Max) :
    mulHalfUp half unit a b = exactQuotient (a * b + half) unit .mathMultiplicationOverflow := by
  have hunit : unit ≠ 0 := by omega
  unfold mulHalfUp
  by_cases hz : a = 0 ∨ b = 0
  · have hab : a * b = 0 := Nat.mul_eq_zero.mpr hz
    rw [if_pos hz, hab, Nat.zero_add, eq_comm, exactQuotient_eq_ok]
    exact ⟨hunit, hhalf, Nat.div_eq_of_lt hlt⟩
  · have hb : 0 < b := by omega
    rw [if_neg hz]
    refine guarded_eq hunit (le_div_guard_iff hb hhalf) ?_
    intro hg
    rw [(wrap_guarded hb hhalf hg).2]

theorem divHalfUp_eq (hu : 0 < unit) (hb : b ≤ uint256Max) :
    divHalfUp unit a b = exactQuotient (a * unit + b / 2) b .mathMultiplicationOverflow := by
  have hhalf : b / 2 ≤ uint256Max := (Nat.div_le_self b 2).trans hb
  unfold divHalfUp
  by_cases hz : b = 0
  · subst hz
    rfl
  · rw [require_of hz, ok_bind]
    refine guarded_eq hz (le_div_guard_iff hu hhalf) ?_
    intro hg
    rw [(wrap_guarded hu hhalf hg).2]

theorem divHalfUp_eq_ok (hu : 0 < unit) :
    divHalfUp unit a b = .ok c ↔
      (b ≠ 0 ∧ a ≤ (uint256Max - b / 2) / unit) ∧ halfUp (a * unit) b = c := by
  simp only [divHalfUp, bind_eq_ok, require_eq_ok, pure_eq_ok, exists_const]
  constructor
  · rintro ⟨hb, hg, rfl⟩
    exact ⟨⟨hb, hg⟩, (guarded_div_eq hu (by omega) hg).symm⟩
  · rintro ⟨⟨hb, hg⟩, rfl⟩
    exact ⟨hb, hg, guarded_div_eq hu (by omega) hg⟩

theorem wadMul_eq :
    wadMul a b = exactQuotient (a * b + halfWAD) WAD .mathMultiplicationOverflow :=
  mulHalfUp_eq (by decide) (by decide)

theorem rayMul_eq :
    rayMul a b = exactQuotient (a * b + halfRAY) RAY .mathMultiplicationOverflow :=
  mulHalfUp_eq (by decide) (by decide)

theorem wadDiv_eq (hb : b ≤ uint256Max) :
    wadDiv a b = exactQuotient (a * WAD + b / 2) b .mathMultiplicationOverflow :=
  divHalfUp_eq (by decide) hb

theorem rayDiv_eq (hb : b ≤ uint256Max) :
    rayDiv a b = exactQuotient (a * RAY + b / 2) b .mathMultiplicationOverflow :=
  divHalfUp_eq (by decide) hb

theorem rayMul_eq_ok {a b c : Nat} :
    rayMul a b = .ok c ↔ a * b + halfRAY ≤ uint256Max ∧ halfUp (a * b) RAY = c := by
  rw [rayMul_eq, exactQuotient_eq_ok]
  exact and_iff_right RAY_pos.ne'

theorem rayDiv_eq_ok {a b c : Nat} :
    rayDiv a b = .ok c ↔ (b ≠ 0 ∧ a ≤ (uint256Max - b / 2) / RAY) ∧ halfUp (a * RAY) b = c :=
  divHalfUp_eq_ok RAY_pos

theorem rayMul_returns (h : a * b + halfRAY < 2 ^ 256) : rayMul a b = .ok (halfUp (a * b) RAY) :=
  rayMul_eq_ok.mpr ⟨word_le_iff.mpr h, rfl⟩

theorem rayDiv_returns (hb : 0 < b) (h : a * RAY + b / 2 < 2 ^ 256) :
    rayDiv a b = .ok (halfUp (a * RAY) b) := by
  have hhalf : b / 2 ≤ uint256Max := word_le_iff.mpr ((Nat.le_add_left _ _).trans_lt h)
  exact rayDiv_eq_ok.mpr ⟨⟨hb.ne', (le_div_guard_iff RAY_pos hhalf).mpr h⟩, rfl⟩

theorem wadDiv_eq_ok {a b c : Nat} :
    wadDiv a b = .ok c ↔ (b ≠ 0 ∧ a ≤ (uint256Max - b / 2) / WAD) ∧ halfUp (a * WAD) b = c :=
  divHalfUp_eq_ok (by decide)

theorem rayToWad_eq (ha : a < 2 ^ 256) :
    rayToWad a =
      exactQuotient (a + WAD_RAY_RATIO / 2) WAD_RAY_RATIO .mathAdditionOverflow := by
  have hguard := wrap_add_guard_iff ha (show WAD_RAY_RATIO / 2 < 2 ^ 256 by decide)
  refine guarded_eq (by decide) hguard ?_
  intro hg
  rw [Nat.add_comm, wrap_eq_self (hguard.mp hg)]

theorem wadToRay_eq :
    wadToRay a = exactQuotient (a * WAD_RAY_RATIO) 1 .mathMultiplicationOverflow := by
  have hguard := wrap_div_guard_iff (a := a) (show 0 < WAD_RAY_RATIO by decide)
  refine guarded_eq Nat.one_ne_zero hguard ?_
  intro hg
  rw [wrap_eq_self (hguard.mp hg), Nat.div_one]

theorem wadToRay_eq_ok {a c : Nat} :
    wadToRay a = .ok c ↔ a * WAD_RAY_RATIO ≤ uint256Max ∧ a * WAD_RAY_RATIO = c := by
  rw [wadToRay_eq, exactQuotient_eq_ok, Nat.div_one]
  exact and_iff_right Nat.one_ne_zero

theorem rayMul_zero_left (b : Nat) : rayMul 0 b = .ok 0 := by simp [rayMul]

theorem rayMul_one_ray {a c : Nat} (h : rayMul RAY a = .ok c) : c = a := by
  obtain ⟨_, rfl⟩ := rayMul_eq_ok.mp h
  rw [Nat.mul_comm]
  exact HalfUp.mul_self_left a RAY_pos

theorem ray_rayMul {index : Nat} (h : index ≤ uint128Max) : rayMul RAY index = .ok index := by
  refine rayMul_eq_ok.mpr ⟨?_, ?_⟩
  · calc RAY * index + halfRAY ≤ RAY * uint128Max + halfRAY :=
          Nat.add_le_add_right (Nat.mul_le_mul_left RAY h) _
      _ ≤ uint256Max := by decide
  · rw [Nat.mul_comm]
    exact HalfUp.mul_self_left index RAY_pos

theorem rayMul_by_ray {a c : Nat} (h : rayMul a RAY = .ok c) : c = a := by
  obtain ⟨_, rfl⟩ := rayMul_eq_ok.mp h
  exact HalfUp.mul_self_left a RAY_pos

theorem rayDiv_by_ray {a c : Nat} (h : rayDiv a RAY = .ok c) : c = a := by
  obtain ⟨_, rfl⟩ := rayDiv_eq_ok.mp h
  exact HalfUp.mul_self_left a RAY_pos

theorem rayDiv_self {a c : Nat} (h : rayDiv a a = .ok c) : c = RAY := by
  obtain ⟨⟨hne, _⟩, rfl⟩ := rayDiv_eq_ok.mp h
  rw [Nat.mul_comm]
  exact HalfUp.mul_self_left RAY (Nat.pos_of_ne_zero hne)

theorem le_rayMul {s index c : Nat} (hi : RAY ≤ index) (h : rayMul s index = .ok c) : s ≤ c := by
  obtain ⟨_, rfl⟩ := rayMul_eq_ok.mp h
  exact HalfUp.le_mul_index RAY_pos hi s

theorem rayDiv_le {a index c : Nat} (hi : RAY ≤ index) (h : rayDiv a index = .ok c) : c ≤ a := by
  obtain ⟨_, rfl⟩ := rayDiv_eq_ok.mp h
  exact HalfUp.div_index_le RAY_pos hi a

/-- Scaling by an index of at least one ray round-trips. -/
theorem rayDiv_rayMul {s index a c : Nat} (hi : RAY ≤ index) (hm : rayMul s index = .ok a)
    (hd : rayDiv a index = .ok c) : c = s := by
  obtain ⟨_, rfl⟩ := rayMul_eq_ok.mp hm
  obtain ⟨_, rfl⟩ := rayDiv_eq_ok.mp hd
  exact HalfUp.round_trip halfRAY RAY_eq_two_mul (by decide) hi s

end ElectroLend
