import Mathlib.Algebra.Field.Rat
import Mathlib.Tactic.Common
import Mathlib.Tactic.FieldSimp
import Mathlib.Tactic.Ring
import OlapClient.Number.Decimal

/-!
# Decimals of another scale

`withScale` appends zeros to a decimal or cuts digits off.  Where the number has a decimal of the new
scale, that decimal is what comes out, so nothing but zeros has been cut off
(`withScale_of_sameValue`).  Hence `toInt?` finds the integer that a decimal denotes, if it denotes
one, whatever its scale (`toInt?_eq_some_iff`).
-/

namespace OlapClient.Number.Decimal

@[simp]
theorem toRat_ofInt (n : Int) :
  (ofInt n).toRat = n
  := by simp [toRat, ofInt]

/-- Zeros at the end change the scale and not the number. -/
theorem toRat_zeros (n : Int) (scale : Int) (zeros : Nat) :
  (⟨n * 10 ^ zeros, scale + zeros⟩ : Decimal).toRat = (⟨n, scale⟩ : Decimal).toRat
  := by
  rw [toRat, toRat, neg_add, zpow_add₀ (by norm_num), zpow_neg 10 (zeros : Int), zpow_natCast]
  push_cast
  field_simp

/-- A number has one decimal of each scale. -/
theorem eq_of_sameValue {d e : Decimal} (same : d.SameValue e) (scales : d.scale = e.scale) :
  d = e
  := by
  obtain ⟨n, scale⟩ := d
  obtain ⟨m, scale'⟩ := e
  subst scales
  have power : (10 : Rat) ^ (-scale) ≠ 0 := zpow_ne_zero _ (by norm_num)
  have numbers : (n : Rat) = m := mul_right_cancel₀ power same
  rw [Int.cast_inj.mp numbers]

/-- A decimal becomes any other decimal of its number by taking on its scale. -/
theorem withScale_of_sameValue {d e : Decimal} (same : d.SameValue e) :
  d.withScale e.scale = e
  := by
  rw [withScale]
  split
  · rename_i below
    obtain ⟨zeros, gap⟩ := Int.le.dest below
    have count : (e.scale - d.scale).toNat = zeros := by omega
    have value : (⟨d.unscaled * 10 ^ zeros, e.scale⟩ : Decimal).SameValue e := by
      rw [SameValue, ← gap, toRat_zeros]
      apply same
    rw [count]
    apply eq_of_sameValue value rfl
  · rename_i above
    obtain ⟨zeros, gap⟩ := Int.le.dest (Int.le_of_not_le above)
    have count : (d.scale - e.scale).toNat = zeros := by omega
    have value : d.SameValue ⟨e.unscaled * 10 ^ zeros, e.scale + zeros⟩ := by
      rw [SameValue, toRat_zeros]
      apply same
    have unscaled : d.unscaled = e.unscaled * 10 ^ zeros :=
      congrArg Decimal.unscaled (eq_of_sameValue value gap.symm)
    rw [count, unscaled, Int.mul_tdiv_cancel _ (pow_ne_zero _ (by decide))]

/-- The integer of a decimal is the number that the decimal denotes. -/
theorem toInt?_eq_some_iff {d : Decimal} {n : Int} :
  d.toInt? = some n ↔ d.toRat = n
  := by
  rw [toInt?]
  constructor
  · intro found
    split at found
    · rename_i whole
      injection found with found
      have scale : (d.withScale 0).scale = 0 := by
        rw [withScale]
        split <;> rfl
      rw [← whole, toRat, scale, found]
      simp
    · cases found
  · intro number
    have same : (ofInt n).SameValue d := by rw [SameValue, number, toRat_ofInt]
    have cut : d.withScale 0 = ofInt n := withScale_of_sameValue same.symm
    rw [cut, if_pos same]
    rfl

end OlapClient.Number.Decimal
