import Mathlib.Algebra.Order.Field.Basic
import Mathlib.Data.Rat.Floor
import Mathlib.Tactic.Common
import Mathlib.Tactic.Linarith
import Mathlib.Tactic.Ring
import OlapClient.Number.Binary

/-!
# Rounding to integers

`Preferred` says which of two approximations of a number is to be taken: the nearer one, and of two
that are equally near the one that is even.  A preference does not depend on the unit nor on the
sign of the numbers.  Rounding half to even takes an integer that is preferred to every other one
(`preferred_roundHalfEven`).
-/

namespace OlapClient.Number

/-! ### Approximations -/

/-- Of two approximations of `x`, the first one is to be taken: they are the same, or the first one
is nearer, or they are equally near and the first one is even. -/
def Preferred (x : Rat) (even : Prop) (y z : Rat) : Prop :=
  z = y ∨ |y - x| < |z - x| ∨ |y - x| = |z - x| ∧ even

section

variable {x y z : Rat} {even : Prop}

theorem preferred_of_le_of_even (near : |y - x| ≤ |z - x|) (holds : even) :
  Preferred x even y z
  := by
  rcases near.lt_or_eq with nearer | same
  · exact .inr (.inl nearer)
  · exact .inr (.inr ⟨same, holds⟩)

/-- Zero is even and exact. -/
theorem preferred_zero (z : Rat) :
  Preferred 0 (0 % 2 = 0) 0 z
  := by
  apply preferred_of_le_of_even _ rfl
  rw [sub_zero, abs_zero]
  apply abs_nonneg

theorem Preferred.le (preferred : Preferred x even y z) :
  |y - x| ≤ |z - x|
  := by
  rcases preferred with rfl | nearer | ⟨same, -⟩
  · exact le_refl _
  · exact nearer.le
  · exact same.le

/-- What is preferred to a number is preferred to whatever is farther away. -/
theorem Preferred.of_lt {w : Rat} (preferred : Preferred x even y w)
    (farther : |w - x| < |z - x|) :
  Preferred x even y z
  := .inr (.inl (lt_of_le_of_lt preferred.le farther))

/-- A preference is kept in another unit. -/
theorem Preferred.scale {unit : Rat} (pos : 0 < unit) (preferred : Preferred (x / unit) even y z) :
  Preferred x even (y * unit) (z * unit)
  := by
  have distance (w : Rat) : |w * unit - x| = |w - x / unit| * unit := by
    rw [← abs_of_pos pos, ← abs_mul, abs_of_pos pos, sub_mul, div_mul_cancel₀ _ pos.ne']
  rw [Preferred, distance, distance, mul_lt_mul_iff_left₀ pos, mul_left_inj' pos.ne',
    mul_left_inj' pos.ne']
  apply preferred

/-- A preference among magnitudes is one among the numbers of the sign of `x`, and of the others
too. -/
theorem Preferred.of_abs (nonzero : x ≠ 0) (signs : 0 ≤ y * x)
    (preferred : Preferred |x| even |y| |z|) :
  Preferred x even y z
  := by
  have distance : |y - x| = abs (|y| - |x|) := by
    rcases nonzero.lt_or_gt with below | above
    · have sign : y ≤ 0 := nonpos_of_mul_nonneg_left signs below
      rw [abs_of_nonpos sign, abs_of_neg below, ← abs_neg]
      congr 1
      ring
    · have sign : 0 ≤ y := nonneg_of_mul_nonneg_left signs above
      rw [abs_of_nonneg sign, abs_of_pos above]
  have farther : abs (|z| - |x|) ≤ |z - x| := abs_abs_sub_abs_le z x
  rcases preferred with same | nearer | ⟨same, holds⟩
  · rcases abs_eq_abs.mp same with rfl | rfl
    · exact .inl rfl
    · rcases signs.eq_or_lt with zero | pos
      · have zero : y = 0 := (mul_eq_zero.mp zero.symm).resolve_right nonzero
        left
        rw [zero, neg_zero]
      · right; left
        rw [← sq_lt_sq]
        linarith
  · right; left
    rw [distance]
    exact lt_of_lt_of_le nearer farther
  · apply preferred_of_le_of_even _ holds
    rw [distance, same]
    apply farther

end

/-! ### The nearest integer -/

section

variable {x : Rat}

/-- Rounding to an integer is off by one half at most, and by one half only to an even integer. -/
theorem roundHalfEven_close (nonneg : 0 ≤ x) :
  |(roundHalfEven x : Rat) - x| ≤ 1 / 2
    ∧ (|(roundHalfEven x : Rat) - x| = 1 / 2 → roundHalfEven x % 2 = 0)
  := by
  have floor : ((x.floor.toNat : Nat) : Rat) = x.floor := by
    have whole : ((x.floor.toNat : Nat) : Int) = x.floor :=
      Int.toNat_of_nonneg (Rat.le_floor_iff.mpr nonneg)
    exact_mod_cast whole
  have below : ((x.floor.toNat : Nat) : Rat) ≤ x := by
    rw [floor]
    apply Rat.floor_le
  have above : x < (x.floor.toNat : Nat) + 1 := by
    rw [floor]
    exact_mod_cast Rat.lt_floor_add_one x
  rw [roundHalfEven]
  split
  · rename_i up
    push_cast
    rw [abs_of_nonneg (by linarith)]
    constructor
    · rcases up with more | ⟨half, odd⟩ <;> linarith
    · intro midway
      rcases up with more | ⟨half, odd⟩
      · linarith
      · omega
  · rename_i down
    rw [not_or, not_lt, not_and] at down
    obtain ⟨less, even⟩ := down
    rw [abs_of_nonpos (by linarith)]
    constructor
    · linarith
    · intro midway
      have parity := even (by linarith)
      omega

/-- The integer that is rounded to is preferred to every other one. -/
theorem preferred_roundHalfEven (nonneg : 0 ≤ x) (k : Nat) :
  Preferred x (roundHalfEven x % 2 = 0) (roundHalfEven x) k
  := by
  obtain ⟨close, tie⟩ := roundHalfEven_close nonneg
  by_cases same : k = roundHalfEven x
  · left
    rw [same]
  · have apart : (1 : Rat) ≤ |(k : Rat) - roundHalfEven x| := by
      have apart : (1 : Int) ≤ |(k : Int) - roundHalfEven x| := by
        apply Int.one_le_abs
        omega
      exact_mod_cast apart
    have triangle := abs_sub_le (k : Rat) x (roundHalfEven x)
    rw [abs_sub_comm x] at triangle
    rcases lt_or_ge |(roundHalfEven x : Rat) - x| |(k : Rat) - x| with nearer | near
    · exact .inr (.inl nearer)
    · exact .inr (.inr ⟨by linarith, tie (by linarith)⟩)

/-- A number is rounded up to an even integer from one half below it on. -/
theorem le_roundHalfEven_iff_of_even (nonneg : 0 ≤ x) {n : Nat} (even : n % 2 = 0) :
  n ≤ roundHalfEven x ↔ (n : Rat) - 1 / 2 ≤ x
  := by
  obtain ⟨close, tie⟩ := roundHalfEven_close nonneg
  constructor
  · intro reached
    have reached : (n : Rat) ≤ roundHalfEven x := by exact_mod_cast reached
    rw [abs_le] at close
    linarith
  · intro half
    by_contra missed
    have gap : (roundHalfEven x : Rat) + 1 ≤ n := by exact_mod_cast Nat.lt_of_not_le missed
    have distance : |(roundHalfEven x : Rat) - x| = 1 / 2 := by
      rw [abs_of_nonpos (by linarith)] at close ⊢
      linarith
    have next : roundHalfEven x + 1 = n := by
      rw [abs_of_nonpos (by linarith)] at distance
      have bound : (n : Rat) ≤ roundHalfEven x + 1 := by linarith
      apply Nat.le_antisymm (Nat.lt_of_not_le missed)
      exact_mod_cast bound
    have parity := tie distance
    omega

end

end OlapClient.Number
