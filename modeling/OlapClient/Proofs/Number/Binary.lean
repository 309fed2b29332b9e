import Mathlib.Algebra.Order.Field.Basic
import Mathlib.Tactic.Common
import Mathlib.Tactic.Linarith
import Mathlib.Tactic.Ring
import OlapClient.Proofs.Number.Rounding

/-!
# Rounding to binary floating point

An exponent suits a positive number if at this exponent the significand of the number takes up all
bits of the format, or as many of them as it can at the least exponent.  Data with smaller exponents
are then farther away than the power of two below the number, and data with greater ones are among
the integers at that exponent.  So the preferred integer makes the preferred datum
(`preferred_of_suits`), unless the number is beyond the `limit` of the format and becomes infinite.
`ofRat_of_limit_le` and `nearest_ofRat` say both for numbers of either sign.
-/

namespace OlapClient.Number

/-! ### The exponent -/

/-- The format has room for a significand and for an exponent. -/
structure BinaryFormat.Regular (f : BinaryFormat) : Prop where
  one_lt_precision : 1 < f.precision
  exponent_le : f.minExponent ≤ f.maxExponent

theorem BinaryFormat.Regular.precision_pos {f : BinaryFormat} (regular : f.Regular) :
  0 < f.precision
  := Nat.zero_lt_of_lt regular.one_lt_precision

theorem BinaryFormat.regular_double :
  double.Regular
  := ⟨by decide, by decide⟩

/-- The significand of the number takes up all bits of the format at the exponent, or as many as it
has at the least exponent. -/
structure Suits (f : BinaryFormat) (x : Rat) (exponent : Int) : Prop where
  least : f.minExponent ≤ exponent
  lt : x < 2 ^ (f.precision + exponent)
  full : exponent = f.minExponent ∨ (2 : Rat) ^ (f.precision + exponent - 1) ≤ x

section

variable {f : BinaryFormat} {x : Rat} {e : Int}

theorem Suits.full_of_lt (suits : Suits f x e) (above : f.minExponent < e) :
  (2 : Rat) ^ (f.precision + e - 1) ≤ x
  := suits.full.resolve_left above.ne'

theorem two_pow_add (n : Nat) (e : Int) :
  (2 : Rat) ^ (n + e) = 2 ^ n * 2 ^ e
  := by
  rw [zpow_add₀ two_ne_zero, zpow_natCast]

/-- The binary logarithms of numerator and denominator tell the power of two below a number up to a
factor of two. -/
theorem two_pow_log2_lt (pos : 0 < x) :
  (2 : Rat) ^ ((x.num.natAbs.log2 : Int) - x.den.log2 - 1) < x
    ∧ x < 2 ^ ((x.num.natAbs.log2 : Int) - x.den.log2 + 1)
  := by
  have num_pos : 0 < x.num := Rat.num_pos.mpr pos
  have num : (x.num.natAbs : Rat) = x.num := by
    rw [← Int.cast_natCast, Int.natAbs_of_nonneg num_pos.le]
  have quotient : x * x.den = x.num.natAbs := by
    rw [num]
    apply Rat.mul_den_eq_num
  have num_ge : (2 : Rat) ^ x.num.natAbs.log2 ≤ x.num.natAbs := by
    exact_mod_cast Nat.log2_self_le (by omega)
  have num_lt : (x.num.natAbs : Rat) < 2 ^ (x.num.natAbs.log2 + 1) := by
    exact_mod_cast Nat.lt_log2_self
  have den_ge : (2 : Rat) ^ x.den.log2 ≤ x.den := by
    exact_mod_cast Nat.log2_self_le x.den_nz
  have den_lt : (x.den : Rat) < 2 ^ (x.den.log2 + 1) := by
    exact_mod_cast Nat.lt_log2_self
  constructor
  · have power : (2 : Rat) ^ ((x.num.natAbs.log2 : Int) - x.den.log2 - 1) * 2 ^ (x.den.log2 + 1)
        = 2 ^ x.num.natAbs.log2 := by
      rw [mul_comm, ← two_pow_add, ← zpow_natCast 2 x.num.natAbs.log2]
      congr 1
      push_cast
      ring
    apply lt_of_mul_lt_mul_right _ (pow_pos two_pos (x.den.log2 + 1)).le
    calc
      _ = 2 ^ x.num.natAbs.log2 := power
      _ ≤ x * x.den := by rwa [quotient]
      _ < x * 2 ^ (x.den.log2 + 1) := mul_lt_mul_of_pos_left den_lt pos
  · have power : (2 : Rat) ^ ((x.num.natAbs.log2 : Int) - x.den.log2 + 1) * 2 ^ x.den.log2
        = 2 ^ (x.num.natAbs.log2 + 1) := by
      rw [mul_comm, ← two_pow_add, ← zpow_natCast 2 (x.num.natAbs.log2 + 1)]
      congr 1
      push_cast
      ring
    apply lt_of_mul_lt_mul_right _ (pow_pos two_pos x.den.log2).le
    calc
      x * 2 ^ x.den.log2 ≤ x * x.den := mul_le_mul_of_nonneg_left den_ge pos.le
      _ < 2 ^ (x.num.natAbs.log2 + 1) := by rwa [quotient]
      _ = _ := power.symm

/-- The exponent at which the significand takes up all bits suits a number, if it is one of the
format. -/
theorem suits_max
    (full : (2 : Rat) ^ (f.precision + e - 1) ≤ x) (lt : x < 2 ^ (f.precision + e)) :
  Suits f x (max f.minExponent e)
  := by
  constructor
  · exact le_max_left _ _
  · apply lt_of_lt_of_le lt
    apply zpow_le_zpow_right₀ one_le_two
    omega
  · rcases le_total e f.minExponent with small | large
    · left
      exact max_eq_left small
    · right
      rwa [max_eq_right large]

theorem suits_exponentFor (pos : 0 < x) :
  Suits f x (Binary.exponentFor f x)
  := by
  obtain ⟨low, high⟩ := two_pow_log2_lt pos
  rw [Binary.exponentFor]
  generalize (x.num.natAbs.log2 : Int) - x.den.log2 = rank at low high ⊢
  have reached : 2 ^ f.precision ≤ x / 2 ^ (rank - f.precision) ↔ (2 : Rat) ^ rank ≤ x := by
    rw [le_div_iff₀ (zpow_pos two_pos _), ← two_pow_add, add_sub_cancel]
  simp only [reached]
  split
  · rename_i above
    have exponent : f.precision + (rank - f.precision + 1) = rank + 1 := by ring
    apply suits_max
    · rwa [exponent, add_sub_cancel_right]
    · rwa [exponent]
  · rename_i below
    have exponent : f.precision + (rank - f.precision) = rank := by ring
    apply suits_max
    · rw [exponent]
      exact low.le
    · rw [exponent]
      exact lt_of_not_ge below

/-- A significand at an exponent that suits the number is less than the next power of two. -/
theorem Suits.div_lt (suits : Suits f x e) :
  x / 2 ^ e < (2 : Rat) ^ f.precision
  := by
  rw [div_lt_iff₀ (zpow_pos two_pos e), ← two_pow_add]
  apply suits.lt

end

/-! ### Finite data -/

namespace Binary

variable {f : BinaryFormat} {x : Rat} {e : Int}

/-- The finite data of a format. -/
structure Proper (f : BinaryFormat) (significand : Nat) (exponent : Int) : Prop where
  significand_lt : significand < 2 ^ f.precision
  least : f.minExponent ≤ exponent
  greatest : exponent ≤ f.maxExponent
  full : exponent = f.minExponent ∨ 2 ^ (f.precision - 1) ≤ significand

theorem magnitude_two_pow (n : Nat) (e : Int) :
  magnitude (2 ^ n) e = 2 ^ (n + e)
  := by
  rw [magnitude, two_pow_add, Nat.cast_pow, Nat.cast_ofNat]

/-- The least significand with all bits. -/
theorem magnitude_least (regular : f.Regular) (e : Int) :
  magnitude (2 ^ (f.precision - 1)) e = 2 ^ (f.precision + e - 1)
  := by
  rw [magnitude_two_pow, Nat.cast_pred regular.precision_pos, sub_add_eq_add_sub]

@[simp]
theorem magnitude_zero (e : Int) :
  magnitude 0 e = 0
  := by
  rw [magnitude, Nat.cast_zero, zero_mul]

theorem proper_zero (regular : f.Regular) :
  Proper f 0 f.minExponent
  := ⟨Nat.two_pow_pos _, le_refl _, regular.exponent_le, .inl rfl⟩

/-- A datum with a greater exponent is a multiple of the unit at a smaller one. -/
theorem exists_multiple {k : Nat} {c : Int} (coarse : e ≤ c) :
  ∃ n : Nat, magnitude k c = n * 2 ^ e
  := by
  obtain ⟨shift, gap⟩ := Int.le.dest coarse
  use k * 2 ^ shift
  rw [magnitude, ← gap, add_comm, two_pow_add]
  push_cast
  ring

/-- A datum with an exponent below one that suits the number is farther away than the least
significand with all bits. -/
theorem binade_nearer (regular : f.Regular) (suits : Suits f x e) {k : Nat} {c : Int}
    (proper : Proper f k c) (fine : c < e) :
  |magnitude (2 ^ (f.precision - 1)) e - x| < |magnitude k c - x|
  := by
  have full := suits.full_of_lt (proper.least.trans_lt fine)
  have smaller : magnitude k c < 2 ^ (f.precision + e - 1) := by
    have significand : (k : Rat) < 2 ^ f.precision := by exact_mod_cast proper.significand_lt
    calc
      magnitude k c < 2 ^ f.precision * 2 ^ c :=
        mul_lt_mul_of_pos_right significand (zpow_pos two_pos c)
      _ = 2 ^ (f.precision + c) := (two_pow_add _ _).symm
      _ ≤ 2 ^ (f.precision + e - 1) := by
        apply zpow_le_zpow_right₀ one_le_two
        omega
  rw [magnitude_least regular, abs_of_nonpos (by linarith), abs_of_nonpos (by linarith)]
  linarith

/-- The rounded significand at an exponent that suits the number is preferred to every datum. -/
theorem preferred_of_suits (regular : f.Regular) (nonneg : 0 ≤ x) (suits : Suits f x e)
    {k : Nat} {c : Int} (proper : Proper f k c) :
  Preferred x (roundHalfEven (x / 2 ^ e) % 2 = 0) (magnitude (roundHalfEven (x / 2 ^ e)) e)
    (magnitude k c)
  := by
  have power : (0 : Rat) < 2 ^ e := zpow_pos two_pos e
  have multiple (n : Nat) := (preferred_roundHalfEven (div_nonneg nonneg power.le) n).scale power
  rcases le_or_gt e c with coarse | fine
  · obtain ⟨n, same⟩ := exists_multiple (k := k) coarse
    rw [same]
    apply multiple
  · exact (multiple _).of_lt (binade_nearer regular suits proper fine)

/-! ### The carry -/

/-- The significand is rounded to the next power of two at most. -/
theorem significand_le (nonneg : 0 ≤ x) (suits : Suits f x e) :
  roundHalfEven (x / 2 ^ e) ≤ 2 ^ f.precision
  := by
  have quotient : 0 ≤ x / 2 ^ e := div_nonneg nonneg (zpow_pos two_pos e).le
  obtain ⟨-, high⟩ := abs_le.mp (roundHalfEven_close quotient).1
  have lt : (roundHalfEven (x / 2 ^ e) : Rat) < (2 ^ f.precision + 1 : Nat) := by
    have lt := suits.div_lt
    push_cast
    linarith
  exact Nat.le_of_lt_succ (Nat.cast_lt.mp lt)

/-- The significand is rounded to the next power of two if the number is at least halfway to it. -/
theorem significand_eq_iff (regular : f.Regular) (nonneg : 0 ≤ x) (suits : Suits f x e) :
  roundHalfEven (x / 2 ^ e) = 2 ^ f.precision ↔ (2 ^ f.precision - 1 / 2) * 2 ^ e ≤ x
  := by
  have power : (0 : Rat) < 2 ^ e := zpow_pos two_pos e
  have even : 2 ^ f.precision % 2 = 0 :=
    Nat.mod_eq_zero_of_dvd (dvd_pow_self 2 regular.precision_pos.ne')
  rw [← le_div_iff₀ power, ← (significand_le nonneg suits).ge_iff_eq,
    le_roundHalfEven_iff_of_even (div_nonneg nonneg power.le) even, Nat.cast_pow, Nat.cast_ofNat]

/-- Rounding leaves the significand with all its bits. -/
theorem significand_full (regular : f.Regular) (nonneg : 0 ≤ x) (suits : Suits f x e) :
  e = f.minExponent ∨ 2 ^ (f.precision - 1) ≤ roundHalfEven (x / 2 ^ e)
  := by
  have power : (0 : Rat) < 2 ^ e := zpow_pos two_pos e
  apply suits.full.imp_right
  intro full
  have quotient : (2 : Rat) ^ (f.precision - 1) ≤ x / 2 ^ e := by
    rwa [le_div_iff₀ power, ← two_pow_add, Nat.cast_pred regular.precision_pos, sub_add_eq_add_sub]
  obtain ⟨low, -⟩ := abs_le.mp (roundHalfEven_close (div_nonneg nonneg power.le)).1
  have lt : ((2 ^ (f.precision - 1) : Nat) : Rat) < (roundHalfEven (x / 2 ^ e) + 1 : Nat) := by
    push_cast
    linarith
  exact Nat.le_of_lt_succ (Nat.cast_lt.mp lt)

/-! ### The limit -/

/-- The least number that is too large for a finite datum: it is halfway between the greatest finite
datum and the number after it that the format would have if it had more exponents. -/
def limit (f : BinaryFormat) : Rat :=
  (2 ^ f.precision - 1 / 2) * 2 ^ f.maxExponent

theorem limit_pos :
  0 < limit f
  := by
  have least : (1 : Rat) ≤ 2 ^ f.precision := one_le_pow₀ one_le_two
  apply mul_pos _ (zpow_pos two_pos _)
  linarith

/-- A number is too large for a finite datum if its exponent is, or if its significand is rounded
up to a power of two that has no exponent left. -/
theorem limit_le_iff (regular : f.Regular) (nonneg : 0 ≤ x) (suits : Suits f x e) :
  limit f ≤ x ↔ f.maxExponent < e
    ∨ f.maxExponent = e ∧ roundHalfEven (x / 2 ^ e) = 2 ^ f.precision
  := by
  have power (n : Int) : (0 : Rat) < 2 ^ n := zpow_pos two_pos n
  have least : (1 : Rat) ≤ 2 ^ f.precision := one_le_pow₀ one_le_two
  have ordered := regular.exponent_le
  rcases lt_trichotomy f.maxExponent e with large | same | small
  · have full := suits.full_of_lt (ordered.trans_lt large)
    have reached : limit f ≤ x := by
      calc
        limit f ≤ 2 ^ f.precision * 2 ^ f.maxExponent := by
          apply mul_le_mul_of_nonneg_right _ (power _).le
          linarith
        _ = 2 ^ (f.precision + f.maxExponent) := (two_pow_add _ _).symm
        _ ≤ 2 ^ (f.precision + e - 1) := by
          apply zpow_le_zpow_right₀ one_le_two
          omega
        _ ≤ x := full
    exact ⟨fun _ => .inl large, fun _ => reached⟩
  · rw [limit, same, ← significand_eq_iff regular nonneg suits]
    simp
  · have missed : x < limit f := by
      calc
        x < 2 ^ (f.precision + e) := suits.lt
        _ ≤ 2 ^ (f.precision + (f.maxExponent - 1)) := by
          apply zpow_le_zpow_right₀ one_le_two
          omega
        _ = 2 ^ f.precision / 2 * 2 ^ f.maxExponent := by
          rw [two_pow_add, zpow_sub_one₀ two_ne_zero]
          ring
        _ ≤ limit f := by
          apply mul_le_mul_of_nonneg_right _ (power _).le
          linarith
    constructor
    · intro reached
      exact absurd reached (not_le_of_gt missed)
    · rintro (large | ⟨same, -⟩) <;> omega

/-! ### Rounding to data -/

/-- A significand that is rounded up to the next power of two is halved. -/
theorem round_eq {negative : Bool} (pos : 0 < x) (exponent : exponentFor f x = e) :
  round f negative x
    = if roundHalfEven (x / 2 ^ e) = 2 ^ f.precision then
        if f.maxExponent < e + 1 then .infinite negative
        else .finite negative (2 ^ (f.precision - 1)) (e + 1)
      else if f.maxExponent < e then .infinite negative
      else .finite negative (roundHalfEven (x / 2 ^ e)) e
  := by
  rw [round, if_neg pos.ne', exponent]
  by_cases carried : roundHalfEven (x / 2 ^ e) = 2 ^ f.precision
  · simp only [if_pos carried]
  · simp only [if_neg carried]

/-- A number that is too large for a finite datum becomes infinite. -/
theorem round_of_limit_le (regular : f.Regular) (negative : Bool) (large : limit f ≤ x) :
  round f negative x = .infinite negative
  := by
  have pos : 0 < x := lt_of_lt_of_le limit_pos large
  have suits := suits_exponentFor (f := f) pos
  rw [round_eq pos rfl]
  rcases (limit_le_iff regular pos.le suits).mp large with exponent | ⟨exponent, carried⟩
  · rw [if_pos exponent, if_pos (Int.lt_add_one_of_le exponent.le), ite_self]
  · rw [if_pos carried, if_pos (Int.lt_add_one_of_le exponent.le)]

/-- Any other number becomes a finite datum that is preferred to every other one. -/
theorem exists_round_of_lt_limit (regular : f.Regular) (negative : Bool) (nonneg : 0 ≤ x)
    (small : x < limit f) :
  ∃ m e, round f negative x = .finite negative m e ∧ Proper f m e
    ∧ ∀ k c, Proper f k c → Preferred x (m % 2 = 0) (magnitude m e) (magnitude k c)
  := by
  have precision := regular.precision_pos
  rcases nonneg.eq_or_lt with rfl | pos
  · use 0, f.minExponent, rfl, proper_zero regular
    intro k c _
    rw [magnitude_zero]
    apply preferred_zero
  · have suits := suits_exponentFor (f := f) pos
    rw [round_eq pos rfl]
    generalize exponentFor f x = e at suits ⊢
    have room := (limit_le_iff regular pos.le suits).not.mp (not_le_of_gt small)
    rw [not_or, not_and, not_lt] at room
    obtain ⟨room, carry⟩ := room
    have preferred {k : Nat} {c : Int} (proper : Proper f k c) :=
      preferred_of_suits regular nonneg suits proper
    by_cases carried : roundHalfEven (x / 2 ^ e) = 2 ^ f.precision
    · have spare : f.maxExponent ≠ e := fun last => carry last carried
      have least := suits.least
      have halved : 2 ^ (f.precision - 1) < 2 ^ f.precision :=
        Nat.pow_lt_pow_right (by decide) (Nat.sub_one_lt_of_lt precision)
      have even : 2 ^ (f.precision - 1) % 2 = 0 :=
        Nat.mod_eq_zero_of_dvd (dvd_pow_self 2 (Nat.sub_ne_zero_of_lt regular.one_lt_precision))
      have same : magnitude (2 ^ (f.precision - 1)) (e + 1) = magnitude (2 ^ f.precision) e := by
        rw [magnitude_least regular, magnitude_two_pow, ← add_assoc, add_sub_cancel_right]
      use 2 ^ (f.precision - 1), e + 1
      rw [if_pos carried, if_neg (by omega), same, ← carried]
      exact ⟨rfl, ⟨carried ▸ halved, by omega, by omega, .inr (le_refl _)⟩,
        fun k c proper => preferred_of_le_of_even (preferred proper).le even⟩
    · have at_most := significand_le nonneg suits
      use roundHalfEven (x / 2 ^ e), e
      rw [if_neg carried, if_neg (by omega)]
      exact ⟨rfl, ⟨by omega, suits.least, room, significand_full regular nonneg suits⟩,
        fun k c => preferred⟩

/-! ### Numbers of either sign -/

/-- The number of a finite datum. -/
inductive HasValue : Binary f → Rat → Prop
  | nonneg {significand : Nat} {exponent : Int} (proper : Proper f significand exponent) :
    HasValue (.finite false significand exponent) (magnitude significand exponent)
  | neg {significand : Nat} {exponent : Int} (proper : Proper f significand exponent) :
    HasValue (.finite true significand exponent) (-magnitude significand exponent)

/-- A finite datum has an even significand. -/
def IsEven : Binary f → Prop
  | .finite _ significand _ => significand % 2 = 0
  | _ => False

/-- A finite datum is the nearest one to a number, or one of two nearest ones and even. -/
def Nearest (y : Binary f) (x : Rat) : Prop :=
  ∃ q, y.HasValue q ∧ ∀ (z : Binary f) r, z.HasValue r → Preferred x y.IsEven q r

theorem magnitude_nonneg (significand : Nat) (exponent : Int) :
  0 ≤ magnitude significand exponent
  := mul_nonneg (Nat.cast_nonneg _) (zpow_pos two_pos _).le

theorem HasValue.abs_eq {y : Binary f} {q : Rat} (value : y.HasValue q) :
  ∃ significand exponent, Proper f significand exponent ∧ |q| = magnitude significand exponent
  := by
  cases value with
  | nonneg proper => exact ⟨_, _, proper, abs_of_nonneg (magnitude_nonneg _ _)⟩
  | neg proper =>
    refine ⟨_, _, proper, ?_⟩
    rw [abs_neg, abs_of_nonneg (magnitude_nonneg _ _)]

theorem ofRat_eq (x : Rat) :
  ofRat f x = round f (decide (x < 0)) |x|
  := by
  rw [ofRat]
  split
  · rename_i below
    rw [abs_of_neg below]
  · rename_i above
    rw [abs_of_nonneg (le_of_not_gt above)]

theorem ofRat_of_limit_le (regular : f.Regular) (large : limit f ≤ |x|) :
  ofRat f x = .infinite (decide (x < 0))
  := by
  rw [ofRat_eq]
  apply round_of_limit_le regular _ large

theorem nearest_ofRat (regular : f.Regular) (small : |x| < limit f) :
  (ofRat f x).Nearest x
  := by
  by_cases zero : x = 0
  · have rounded : ofRat f x = .finite false 0 f.minExponent := by rw [zero]; rfl
    rw [rounded, zero]
    refine ⟨_, .nonneg (proper_zero regular), fun z r _ => ?_⟩
    rw [magnitude_zero]
    apply preferred_zero
  obtain ⟨m, e, rounded, proper, preferred⟩ :=
    exists_round_of_lt_limit regular (decide (x < 0)) (abs_nonneg x) small
  have signed {q : Rat} (same : |q| = magnitude m e) (signs : 0 ≤ q * x) {z : Binary f} {r : Rat}
      (value : z.HasValue r) : Preferred x (m % 2 = 0) q r := by
    obtain ⟨k, c, proper, same'⟩ := value.abs_eq
    apply Preferred.of_abs zero signs
    rw [same, same']
    apply preferred k c proper
  have nonneg := magnitude_nonneg m e
  rw [ofRat_eq, rounded]
  rcases lt_or_gt_of_ne zero with below | above
  · rw [decide_eq_true below]
    refine ⟨_, .neg proper, fun z r => signed ?_ ?_⟩
    · rw [abs_neg, abs_of_nonneg nonneg]
    · apply mul_nonneg_of_nonpos_of_nonpos (neg_nonpos_of_nonneg nonneg) below.le
  · rw [decide_eq_false (not_lt_of_gt above)]
    refine ⟨_, .nonneg proper, fun z r => signed ?_ ?_⟩
    · rw [abs_of_nonneg nonneg]
    · apply mul_nonneg nonneg above.le

end Binary

end OlapClient.Number
