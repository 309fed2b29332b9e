import Mathlib.Tactic.Common
import OlapClient.Number.Binary.Reading
import OlapClient.Number.Digits

/-!
# Numerals read back

An integer that was written in decimal is read back as itself, by the reader of numerals of any
size and by the reader of every format that has the integer.  Within a format no digit on the way
leaves the range: what the first digits of a numeral denote lies between zero and what the whole
numeral denotes.
-/

namespace OlapClient.Number

open Nat (ofDigitChars)

/-! ### Digits -/

theorem isDigit_iff {c : Char} :
  isDigit c ↔ 48 ≤ c.toNat ∧ c.toNat ≤ 57
  := by
  simp only [isDigit, Bool.and_eq_true, decide_eq_true_eq, Char.le_def, UInt32.le_iff_toNat_le]
  rfl

theorem ne_of_isDigit {c mark : Char} (h : isDigit c) (apart : isDigit mark = false) :
  c ≠ mark
  := by
  rintro rfl
  rw [h] at apart
  contradiction

/-- A character is a digit of the decimal form of a number. -/
theorem isDigit_of_mem_decimalDigits {n : Nat} {c : Char} (h : c ∈ decimalDigits n) :
  isDigit c
  := by
  have digit := Nat.isDigit_of_mem_toDigits (by decide) (by decide) h
  simp only [Char.isDigit, Bool.and_eq_true, decide_eq_true_eq, UInt32.le_iff_toNat_le] at digit
  apply isDigit_iff.mpr digit

theorem isDigit_of_mem_zeros {n : Nat} :
  ∀ c ∈ List.replicate n '0', isDigit c
  := by
  intro c hc
  rw [List.eq_of_mem_replicate hc]
  rfl

theorem decimalDigits_ne_nil (n : Nat) :
  decimalDigits n ≠ []
  := Nat.toDigits_ne_nil

theorem ofDigitChars_decimalDigits (n : Nat) :
  ofDigitChars 10 (decimalDigits n) 0 = n
  := Nat.ofDigitChars_ten_toDigits

theorem digitsValue_eq (digits : List Char) :
  digitsValue digits = ofDigitChars 10 digits 0
  := by
  simp only [digitsValue, Nat.ofDigitChars_eq_foldl, Nat.mul_comm]

theorem digit?_of_isDigit {c : Char} (h : isDigit c) :
  digit? 10 c = some (c.toNat - '0'.toNat)
  := by
  obtain ⟨low, high⟩ := isDigit_iff.mp h
  have within : '0' ≤ c ∧ c ≤ '9' := by simpa [isDigit] using h
  have small : c.toNat - '0'.toNat < 10 := by
    have zero : '0'.toNat = 48 := rfl
    omega
  rw [digit?, if_pos within, if_pos small]

/-- Digits that follow do not lessen what was read. -/
theorem le_ofDigitChars (digits : List Char) (n : Nat) :
  n ≤ ofDigitChars 10 digits n
  := by
  induction digits generalizing n with
  | nil => simp
  | cons c digits ih =>
    rw [Nat.ofDigitChars_cons]
    apply Nat.le_trans _ (ih _)
    omega

/-! ### Numerals of a fixed-width format -/

/-- A number with a sign. -/
def withSign (negative : Bool) (n : Nat) : Int :=
  if negative then -n else n

/-- What is nearer to zero than an integer of a format is in the format. -/
theorem holds_withSign
    {k : IntKind} {negative : Bool} {m n : Nat} (h : k.Holds (withSign negative n)) (le : m ≤ n) :
  k.Holds (withSign negative m)
  := by
  have zero := (Bounded.zero k).holds
  have val : (Bounded.zero k).val = 0 := rfl
  rw [val] at zero
  unfold IntKind.Holds withSign at *
  cases negative <;> simp only [Bool.false_eq_true, if_false, if_true] at * <;> omega

/-- Digits that end in a number of the format are read as that number. -/
theorem readDigits_digits
    {k : IntKind} {negative : Bool} {digits : List Char} (all : ∀ c ∈ digits, isDigit c)
    {a : Nat} {acc b : Bounded k} (start : acc.val = withSign negative a)
    (stop : b.val = withSign negative (ofDigitChars 10 digits a)) :
  readDigits 10 k negative acc digits = .ok b
  := by
  induction digits generalizing a acc with
  | nil =>
    have same : acc = b := by
      apply Bounded.ext
      rw [start, stop, Nat.ofDigitChars_nil]
    rw [readDigits, same]
  | cons c digits ih =>
    rw [Nat.ofDigitChars_cons] at stop
    have next : acc.val * (10 : Nat)
        + (if negative then -((c.toNat - '0'.toNat : Nat) : Int) else (c.toNat - '0'.toNat : Nat))
        = withSign negative (10 * a + (c.toNat - '0'.toNat)) := by
      rw [start, withSign, withSign]
      split <;> omega
    have holds : k.Holds (withSign negative (10 * a + (c.toNat - '0'.toNat))) := by
      apply holds_withSign _ (le_ofDigitChars digits _)
      rw [← stop]
      apply b.holds
    rw [readDigits, digit?_of_isDigit (all c (by simp))]
    dsimp only
    rw [next, Bounded.ofInt?, dif_pos holds]
    apply ih (fun c' hc' => all c' (by simp [hc'])) rfl stop

/-- A numeral without a sign is read as its value. -/
theorem readBounded_digits
    {k : IntKind} {digits : List Char} (all : ∀ c ∈ digits, isDigit c) (some_digit : digits ≠ [])
    {b : Bounded k} (value : b.val = ofDigitChars 10 digits 0) :
  readBounded 10 k digits = .ok b
  := by
  have read : readDigits 10 k false (.zero k) digits = .ok b := readDigits_digits all rfl value
  rw [← read]
  unfold readBounded
  split
  · apply absurd rfl some_digit
  · absurd all '+' (by simp)
    decide
  · absurd all '-' (by simp)
    decide
  · absurd all '+' (by simp)
    decide
  · absurd all '-' (by simp)
    decide
  · rfl

/-- A numeral with a minus sign is read as its value, if that is below zero. -/
theorem readBounded_minus
    {k : IntKind} {digits : List Char} (all : ∀ c ∈ digits, isDigit c) (some_digit : digits ≠ [])
    {b : Bounded k} (value : b.val = -(ofDigitChars 10 digits 0 : Int)) (negative : b.val < 0) :
  readBounded 10 k ('-' :: digits) = .ok b
  := by
  have signed : k.signed := by
    by_contra unsigned
    have low := b.holds.1
    rw [IntKind.lo, if_neg unsigned] at low
    omega
  have read : readDigits 10 k true (.zero k) digits = .ok b := readDigits_digits all rfl value
  cases digits with
  | nil => apply absurd rfl some_digit
  | cons c digits =>
    rw [readBounded]
    · rw [if_pos signed, read]
    · simp

/-- An integer of a format is read back from its decimal form. -/
theorem readBounded_decimalText {k : IntKind} (b : Bounded k) :
  readBounded 10 k (decimalText b.val).toList = .ok b
  := by
  rw [decimalText, String.toList_ofList]
  split
  · rename_i negative
    apply readBounded_minus (fun _ => isDigit_of_mem_decimalDigits) (decimalDigits_ne_nil _) _
      negative
    rw [ofDigitChars_decimalDigits]
    omega
  · rename_i positive
    apply readBounded_digits (fun _ => isDigit_of_mem_decimalDigits) (decimalDigits_ne_nil _)
    rw [ofDigitChars_decimalDigits]
    omega

/-! ### Numerals of any size -/

theorem readSpacedDigits_digits
    {digits : List Char} (all : ∀ c ∈ digits, isDigit c) (n : Nat) :
  readSpacedDigits n digits = some (ofDigitChars 10 digits n)
  := by
  induction digits generalizing n with
  | nil => simp [readSpacedDigits]
  | cons c digits ih =>
    have digit := all c (by simp)
    rw [readSpacedDigits, digit?_of_isDigit digit, Option.bind_some,
      ih fun c' hc' => all c' (by simp [hc']), Nat.ofDigitChars_cons, Nat.mul_comm]
    intro h
    apply ne_of_isDigit digit (by decide) h

theorem readSpacedNat_digits
    {digits : List Char} (all : ∀ c ∈ digits, isDigit c) (some_digit : digits ≠ []) :
  readSpacedNat digits = some (ofDigitChars 10 digits 0)
  := by
  cases digits with
  | nil => apply absurd rfl some_digit
  | cons c digits =>
    have plus : c ≠ '+' := ne_of_isDigit (all c (by simp)) (by decide)
    have underscore : c ≠ '_' := ne_of_isDigit (all c (by simp)) (by decide)
    simp [readSpacedNat, plus, underscore, readSpacedDigits_digits all]

/-- A numeral is read as its value, with a minus sign or without. -/
theorem readWhole_digits
    {digits : List Char} (all : ∀ c ∈ digits, isDigit c) (some_digit : digits ≠ [])
    (negative : Bool) :
  readWhole (if negative then '-' :: digits else digits)
    = some (withSign negative (ofDigitChars 10 digits 0))
  := by
  have value := readSpacedNat_digits all some_digit
  cases digits with
  | nil => apply absurd rfl some_digit
  | cons c digits =>
    have plus : c ≠ '+' := ne_of_isDigit (all c (by simp)) (by decide)
    have minus : c ≠ '-' := ne_of_isDigit (all c (by simp)) (by decide)
    cases negative with
    | false => simp [readWhole, minus, value, withSign]
    | true => simp [readWhole, plus, value, withSign]

/-- An integer is read back from its decimal form. -/
theorem readWhole_decimalText (n : Int) :
  readWhole (decimalText n).toList = some n
  := by
  have read := readWhole_digits (fun _ => isDigit_of_mem_decimalDigits)
    (decimalDigits_ne_nil n.natAbs) (decide (n < 0))
  rw [ofDigitChars_decimalDigits] at read
  rw [decimalText, String.toList_ofList]
  simp only [decide_eq_true_eq] at read
  rw [read, withSign]
  simp only [decide_eq_true_eq, Option.some.injEq]
  omega

end OlapClient.Number
