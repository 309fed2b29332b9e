import Mathlib.Data.List.TakeWhile
import Mathlib.Tactic.Common
import OlapClient.Number.Decimal
import OlapClient.Proofs.Number.Numeral

/-!
# The parts of a decimal

The reader of decimals cuts a text at its exponent and at its point, and reads the digits that are
left as an integer (`read?_of_parts`).  The plain form of a decimal has a sign, digits and at most
one point.  A negative scale is not written: zeros are appended instead, so that the plain form is
that of the `flat` decimal, which denotes the same number.
-/

namespace OlapClient.Number

open Nat (ofDigitChars)

namespace Decimal

/-! ### Decimals without a negative scale -/

/-- The decimal of the same number that has no negative scale. -/
def flat (d : Decimal) : Decimal :=
  if d.scale ≤ 0 then ⟨d.unscaled * 10 ^ (-d.scale).toNat, 0⟩ else d

theorem sameValue_flat (d : Decimal) :
  d.flat.SameValue d
  := by
  unfold flat
  split
  · obtain ⟨zeros, hzeros⟩ : ∃ zeros : Nat, -d.scale = zeros := ⟨(-d.scale).toNat, by omega⟩
    rw [SameValue, toRat, toRat, hzeros, Rat.zpow_natCast]
    simp
  · rfl

/-! ### The parts of a literal -/

/-- A list is cut in two at its first element without a property. -/
theorem cut_at {α : Type} {p : α → Bool} {before : List α} {mark : α}
    (passed : ∀ a ∈ before, p a) (stop : p mark = false) (after : List α) :
  (before ++ mark :: after).takeWhile p = before
    ∧ (before ++ mark :: after).dropWhile p = mark :: after
  := by
  constructor
  · rw [List.takeWhile_append_of_pos passed, List.takeWhile_cons, stop]
    simp
  · rw [List.dropWhile_append_of_pos passed, List.dropWhile_cons, stop]
    rfl

theorem splitExponent_of_forall
    {cs : List Char} (h : ∀ c ∈ cs, c ≠ 'e' ∧ c ≠ 'E') :
  splitExponent cs = (cs, none)
  := by
  have passed : cs.dropWhile (fun c => !(c == 'e' || c == 'E')) = [] := by
    rw [List.dropWhile_eq_nil_iff]
    intro c hc
    simp [h c hc]
  rw [splitExponent]
  simp only [passed]

theorem splitPoint_of_forall
    {cs : List Char} (h : ∀ c ∈ cs, c ≠ '.') :
  splitPoint cs = (cs, 0)
  := by
  have passed : cs.dropWhile (· != '.') = [] := by
    rw [List.dropWhile_eq_nil_iff]
    intro c hc
    simp [h c hc]
  rw [splitPoint, passed]

/-- A point is left out and what follows it is counted. -/
theorem splitPoint_append
    {whole fraction : List Char} (plain : ∀ c ∈ whole, c ≠ '.')
    (digits : ∀ c ∈ fraction, isDigit c) :
  splitPoint (whole ++ '.' :: fraction) = (whole ++ fraction, fraction.length)
  := by
  have before : ∀ c ∈ whole, (c != '.') = true := fun c hc => by simp [plain c hc]
  have stop : ('.' != '.') = false := rfl
  obtain ⟨taken, dropped⟩ := cut_at before stop fraction
  have counted : fraction.filter (· != '_') = fraction := by
    rw [List.filter_eq_self]
    intro c hc
    have underscore : c ≠ '_' := ne_of_isDigit (digits c hc) (by decide)
    simp [underscore]
  rw [splitPoint, taken, dropped]
  simp only [counted]

/-- An exponent is cut off at its mark. -/
theorem splitExponent_append
    {mantissa : List Char} (plain : ∀ c ∈ mantissa, c ≠ 'e' ∧ c ≠ 'E') {mark : Char}
    (letter : mark = 'e' ∨ mark = 'E') (exponent : List Char) :
  splitExponent (mantissa ++ mark :: exponent) = (mantissa, some exponent)
  := by
  have before : ∀ c ∈ mantissa, (!(c == 'e' || c == 'E')) = true := fun c hc => by
    simp [plain c hc]
  have stop : (!(mark == 'e' || mark == 'E')) = false := by
    rcases letter with rfl | rfl <;> rfl
  obtain ⟨taken, dropped⟩ := cut_at before stop exponent
  rw [splitExponent]
  simp only [taken, dropped]

/-- A literal is read as its digits over its number of places less its exponent. -/
theorem read?_of_parts
    {cs mantissa numeral : List Char} {exponent : Option (List Char)} {places : Nat} {e n : Int}
    (cut : splitExponent cs = (mantissa, exponent)) (raised : readExponent exponent = some e)
    (some_char : mantissa ≠ []) (parts : splitPoint mantissa = (numeral, places))
    (holds : IntKind.int64.Holds (places - e)) (value : readWhole numeral = some n) :
  read? cs = some ⟨n, places - e⟩
  := by
  have admitted : Bounded.ofInt? .int64 (places - e) = some ⟨places - e, holds⟩ := dif_pos holds
  have filled : mantissa.isEmpty = false := by simpa using some_char
  simp only [read?, cut, raised, parts, value, admitted, filled, Option.bind_eq_bind,
    Option.bind_some, Option.pure_def, Bool.false_eq_true, if_false]

/-! ### The plain form -/

theorem withSign_mul (negative : Bool) (m n : Nat) :
  withSign negative (m * n) = withSign negative n * m
  := by
  rw [withSign, withSign, Int.natCast_mul, Int.mul_comm]
  cases negative with
  | false => rfl
  | true => apply (Int.neg_mul _ _).symm

/-- A character of a decimal in plain form. -/
def isPlain (c : Char) : Bool :=
  isDigit c || c == '-' || c == '.'

theorem isPlain_of_isDigit {c : Char} (h : isDigit c) :
  isPlain c
  := by
  simp [isPlain, h]

/-- Digits with zeros before them, more than a number of places. -/
def spread (digits : List Char) (places : Nat) : List Char :=
  List.replicate (places + 1 - digits.length) '0' ++ digits

/-- The digits before the point. -/
def wholeDigits (digits : List Char) (places : Nat) : List Char :=
  (spread digits places).take ((spread digits places).length - places)

/-- The digits after the point. -/
def fractionDigits (digits : List Char) (places : Nat) : List Char :=
  (spread digits places).drop ((spread digits places).length - places)

section

variable {digits : List Char} (all : ∀ c ∈ digits, isDigit c) (places : Nat)

theorem withPoint_eq (digits : List Char) (positive : places ≠ 0) :
  withPoint digits places = wholeDigits digits places ++ '.' :: fractionDigits digits places
  := by
  rw [withPoint, if_neg positive]
  rfl

theorem wholeDigits_append_fractionDigits (digits : List Char) :
  wholeDigits digits places ++ fractionDigits digits places = spread digits places
  := List.take_append_drop _ _

theorem spread_ne_nil (digits : List Char) :
  spread digits places ≠ []
  := by
  intro none
  have length := congrArg List.length none
  simp only [spread, List.length_append, List.length_replicate, List.length_nil] at length
  omega

theorem ofDigitChars_spread (digits : List Char) :
  ofDigitChars 10 (spread digits places) 0 = ofDigitChars 10 digits 0
  := by
  rw [spread, Nat.ofDigitChars_append, Nat.ofDigitChars_replicate_zero, Nat.mul_zero]

theorem length_fractionDigits (digits : List Char) :
  (fractionDigits digits places).length = places
  := by
  simp only [fractionDigits, spread, List.length_drop, List.length_append, List.length_replicate]
  omega

include all

theorem isDigit_of_mem_spread :
  ∀ c ∈ spread digits places, isDigit c
  := by
  rw [spread, List.forall_mem_append]
  exact ⟨isDigit_of_mem_zeros, all⟩

theorem isDigit_of_mem_wholeDigits :
  ∀ c ∈ wholeDigits digits places, isDigit c
  := fun c hc => isDigit_of_mem_spread all places c (List.mem_of_mem_take hc)

theorem isDigit_of_mem_fractionDigits :
  ∀ c ∈ fractionDigits digits places, isDigit c
  := fun c hc => isDigit_of_mem_spread all places c (List.mem_of_mem_drop hc)

theorem isPlain_of_mem_withPoint :
  ∀ c ∈ withPoint digits places, isPlain c
  := by
  by_cases none : places = 0
  · rw [withPoint, if_pos none]
    intro c hc
    apply isPlain_of_isDigit (all c hc)
  · rw [withPoint_eq places digits none, List.forall_mem_append, List.forall_mem_cons]
    constructor
    · intro c hc
      apply isPlain_of_isDigit (isDigit_of_mem_wholeDigits all places c hc)
    constructor
    · rfl
    · intro c hc
      apply isPlain_of_isDigit (isDigit_of_mem_fractionDigits all places c hc)

end

theorem isPlain_of_mem_plain (d : Decimal) :
  ∀ c ∈ d.plain.toList, isPlain c
  := by
  have all : ∀ c ∈ decimalDigits d.unscaled.natAbs, isDigit c :=
    fun _ => isDigit_of_mem_decimalDigits
  have digits : ∀ c ∈ d.plainDigits, isPlain c := by
    rw [plainDigits]
    split
    · rw [List.forall_mem_append]
      constructor
      · intro c hc
        apply isPlain_of_isDigit (all c hc)
      · intro c hc
        apply isPlain_of_isDigit (isDigit_of_mem_zeros c hc)
    · apply isPlain_of_mem_withPoint all
  rw [plain, String.toList_ofList, signed]
  split
  · rw [List.forall_mem_cons]
    exact ⟨rfl, digits⟩
  · apply digits

/-- The scale of a decimal that was read is an integer of 64 bits. -/
theorem scale_le_of_read? {cs : List Char} {d : Decimal} (h : read? cs = some d) :
  d.scale ≤ IntKind.int64.hi
  := by
  simp only [read?, Option.bind_eq_bind, Option.bind_eq_some_iff, Option.pure_def] at h
  obtain ⟨exponent, -, h⟩ := h
  split at h
  · simp at h
  · simp only [Option.bind_eq_some_iff, Option.some.injEq] at h
    obtain ⟨scale, -, unscaled, -, rfl⟩ := h
    apply scale.holds.2

end Decimal

end OlapClient.Number
