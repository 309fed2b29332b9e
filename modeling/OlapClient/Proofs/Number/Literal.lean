import Mathlib.Algebra.Field.Rat
import Mathlib.Tactic.Common
import Mathlib.Tactic.FieldSimp
import Mathlib.Tactic.Ring
import OlapClient.Proofs.Number.Decimal
import OlapClient.Proofs.Number.Grammar

/-!
# Decimal literals

A decimal literal has a sign or none, digits with at most one point among them, and an exponent or
none.  `Literal` holds these parts and `Literal.Spells` says which texts have them.  A literal
denotes the sum of its digits, each by its place, and `Decimal.read?_of_spells` says that it is read
as a decimal of exactly this number.  Numerals are literals without a point, and the plain form of a
decimal is one without an exponent (`Decimal.spells_plain`).
-/

namespace OlapClient.Number

open Nat (ofDigitChars)

/-! ### The parts of a literal -/

/-- The parts of a decimal literal: its sign, its digits before and behind the point, and its
exponent if it has one. -/
structure Literal where
  negative : Bool
  whole : List Char
  fraction : List Char
  exponent : Option Int

/-- A text is digits with a point behind those of `whole`, or without a point. -/
inductive Pointed (whole : List Char) : List Char → List Char → Prop where
  | bare : Pointed whole [] whole
  | point (fraction : List Char) : Pointed whole fraction (whole ++ '.' :: fraction)

/-- A text is a mantissa and an exponent behind it, or a mantissa alone. -/
inductive Raised (mantissa : List Char) : Option Int → List Char → Prop where
  | bare : Raised mantissa none mantissa
  | raised {mark : Char} {exponent : List Char} {e : Int} (letter : mark = 'e' ∨ mark = 'E')
      (denotes : Denotes exponent e) : Raised mantissa (some e) (mantissa ++ mark :: exponent)

namespace Literal

/-- All digits of a literal. -/
def digits (l : Literal) : List Char :=
  l.whole ++ l.fraction

/-- A text has the parts of a literal, and at least one digit outside the exponent. -/
inductive Spells (l : Literal) : List Char → Prop where
  | spelled {body mantissa cs : List Char} (digits : IsDigits l.digits)
      (pointed : Pointed l.whole l.fraction body) (signed : Signed body l.negative mantissa)
      (raised : Raised mantissa l.exponent cs) : Spells l cs

/-- The number a literal denotes. -/
def value (l : Literal) : Rat :=
  (if l.negative then -1 else 1)
    * (digitsValue l.whole + digitsValue l.fraction / 10 ^ l.fraction.length)
    * 10 ^ l.exponent.getD 0

/-- The number of places that the last digit of a literal stands behind the point. -/
def scale (l : Literal) : Int :=
  l.fraction.length - l.exponent.getD 0

/-- The digits of a literal as a decimal. -/
def toDecimal (l : Literal) : Decimal :=
  ⟨withSign l.negative (digitsValue l.digits), l.scale⟩

end Literal

theorem digitsValue_append (ds es : List Char) :
  digitsValue (ds ++ es) = digitsValue ds * 10 ^ es.length + digitsValue es
  := by
  rw [digitsValue_eq, digitsValue_eq, digitsValue_eq, Nat.ofDigitChars_append,
    Nat.ofDigitChars_eq_ofDigitChars_zero, Nat.mul_comm]

/-- The decimal of a literal is the number that the literal denotes. -/
theorem Literal.toRat_toDecimal (l : Literal) :
  l.toDecimal.toRat = l.value
  := by
  have sign (n : Nat) :
      ((withSign l.negative n : Int) : Rat) = (if l.negative then -1 else 1) * (n : Rat) := by
    cases l.negative <;> simp [withSign]
  have places : (10 : Rat) ^ (-l.scale) = 10 ^ l.exponent.getD 0 / 10 ^ l.fraction.length := by
    rw [scale, neg_sub, zpow_sub₀ (by norm_num), zpow_natCast]
  rw [Decimal.toRat, toDecimal, sign, places, digits, digitsValue_append, value]
  push_cast
  field_simp

/-! ### Reading a literal -/

/-- A sign stands before its body, and would stand before another one alike. -/
theorem Signed.exists_sign {body cs : List Char} {negative : Bool}
    (signed : Signed body negative cs) :
  ∃ sign, cs = sign ++ body ∧ (∀ c ∈ sign, c = '+' ∨ c = '-')
    ∧ ∀ body', Signed body' negative (sign ++ body')
  := by
  cases signed with
  | bare => exact ⟨[], rfl, by simp, fun _ => .bare⟩
  | plus => exact ⟨['+'], rfl, by simp, fun _ => .plus⟩
  | minus => exact ⟨['-'], rfl, by simp, fun _ => .minus⟩

section

variable {whole fraction body mantissa : List Char} {negative : Bool}

theorem Pointed.sublist (pointed : Pointed whole fraction body) :
  (whole ++ fraction).Sublist body
  := by
  cases pointed with
  | bare => rw [List.append_nil]
  | point => apply (List.sublist_cons_self _ _).append_left

theorem Signed.sublist (signed : Signed body negative mantissa) :
  body.Sublist mantissa
  := by
  obtain ⟨sign, rfl, -, -⟩ := signed.exists_sign
  apply List.sublist_append_right

theorem Raised.sublist {exponent : Option Int} {cs : List Char}
    (raised : Raised mantissa exponent cs) :
  mantissa.Sublist cs
  := by
  cases raised with
  | bare => apply List.Sublist.refl
  | raised => apply List.sublist_append_left

/-- A text is no shorter than the fraction digits in it. -/
theorem Literal.Spells.length_fraction_le {l : Literal} {cs : List Char} (spells : l.Spells cs) :
  l.fraction.length ≤ cs.length
  := by
  obtain ⟨-, pointed, signed, raised⟩ := spells
  have fraction := (List.sublist_append_right l.whole _).trans pointed.sublist
  apply ((fraction.trans signed.sublist).trans raised.sublist).length_le

/-- The characters of a literal are digits and a point, apart from its sign and its exponent. -/
theorem Pointed.ne_of_mem (pointed : Pointed whole fraction body)
    (digits : IsDigits (whole ++ fraction)) {mark : Char} (apart : isDigit mark = false)
    (point : mark ≠ '.') :
  ∀ c ∈ body, c ≠ mark
  := by
  have digit {c : Char} (mem : c ∈ whole ++ fraction) : c ≠ mark :=
    ne_of_isDigit (digits.2 c mem) apart
  cases pointed with
  | bare =>
    intro c mem
    apply digit (List.mem_append_left _ mem)
  | point =>
    rw [List.forall_mem_append, List.forall_mem_cons]
    exact ⟨fun c mem => digit (List.mem_append_left _ mem), point.symm,
      fun c mem => digit (List.mem_append_right _ mem)⟩

theorem ne_of_mem_mantissa
    (digits : IsDigits (whole ++ fraction)) (pointed : Pointed whole fraction body)
    (signed : Signed body negative mantissa) {mark : Char} (apart : isDigit mark = false)
    (point : mark ≠ '.') (plus : mark ≠ '+') (minus : mark ≠ '-') :
  ∀ c ∈ mantissa, c ≠ mark
  := by
  obtain ⟨sign, rfl, signs, -⟩ := signed.exists_sign
  rw [List.forall_mem_append]
  constructor
  · rintro c mem rfl
    rcases signs c mem with is_plus | is_minus
    · apply plus is_plus
    · apply minus is_minus
  · apply pointed.ne_of_mem digits apart point

/-- The point of a literal is left out, and the digits behind it are counted. -/
theorem splitPoint_of_pointed
    (digits : IsDigits (whole ++ fraction)) (pointed : Pointed whole fraction body)
    (signed : Signed body negative mantissa) :
  ∃ numeral, Decimal.splitPoint mantissa = (numeral, fraction.length)
    ∧ Signed (whole ++ fraction) negative numeral
  := by
  obtain ⟨sign, rfl, signs, resigned⟩ := signed.exists_sign
  use sign ++ (whole ++ fraction)
  refine ⟨?_, resigned _⟩
  have before : ∀ c ∈ sign ++ whole, c ≠ '.' := by
    rintro c mem rfl
    rcases List.mem_append.mp mem with in_sign | in_whole
    · cases signs _ in_sign <;> contradiction
    · cases digits.2 _ (List.mem_append_left _ in_whole)
  cases pointed with
  | bare =>
    rw [List.append_nil]
    apply Decimal.splitPoint_of_forall before
  | point =>
    rw [← List.append_assoc, ← List.append_assoc]
    apply Decimal.splitPoint_append before
    intro c mem
    apply digits.2 c (List.mem_append_right _ mem)

/-- The exponent of a literal is cut off and read. -/
theorem splitExponent_of_raised
    {cs : List Char} {exponent : Option Int} (plain : ∀ c ∈ mantissa, c ≠ 'e' ∧ c ≠ 'E')
    (raised : Raised mantissa exponent cs) (holds : IntKind.int128.Holds (exponent.getD 0)) :
  ∃ rest, Decimal.splitExponent cs = (mantissa, rest)
    ∧ Decimal.readExponent rest = some (exponent.getD 0)
  := by
  cases raised with
  | bare => exact ⟨none, Decimal.splitExponent_of_forall plain, rfl⟩
  | @raised mark rest e letter denotes =>
    use some rest, Decimal.splitExponent_append plain letter rest
    have read : readBounded 10 .int128 rest = .ok ⟨e, holds⟩ :=
      readBounded_eq_ok_iff.mpr ⟨denotes, holds, .inl rfl⟩
    rw [Decimal.readExponent, read]
    rfl

end

namespace Decimal

/-- A literal is read as the decimal of its digits, if there is room for its exponent and for its
scale. -/
theorem read?_of_spells
    {l : Literal} {cs : List Char} (spells : l.Spells cs)
    (exponent : IntKind.int128.Holds (l.exponent.getD 0)) (scale : IntKind.int64.Holds l.scale) :
  read? cs = some l.toDecimal
  := by
  obtain @⟨body, mantissa, cs, digits, pointed, signed, raised⟩ := spells
  have plain : ∀ c ∈ mantissa, c ≠ 'e' ∧ c ≠ 'E' := by
    intro c mem
    constructor
    · apply ne_of_mem_mantissa digits pointed signed _ _ _ _ c mem <;> decide
    · apply ne_of_mem_mantissa digits pointed signed _ _ _ _ c mem <;> decide
  obtain ⟨rest, cut, raise⟩ := splitExponent_of_raised plain raised exponent
  obtain ⟨numeral, parts, resigned⟩ := splitPoint_of_pointed digits pointed signed
  have denotes : Denotes numeral (withSign l.negative (digitsValue l.digits)) :=
    ⟨l.negative, l.digits, resigned, digits, rfl⟩
  apply read?_of_parts cut raise _ parts scale
    (readWhole_eq_some_iff.mpr (denotes_iff.mp denotes).1)
  rintro rfl
  have empty : [] = numeral := congrArg Prod.fst parts
  apply ne_nil_of_denotes denotes empty.symm

/-- A numeral is read as a decimal without fraction digits. -/
theorem read?_of_denotes {cs : List Char} {n : Int} (denotes : Denotes cs n) :
  read? cs = some (.ofInt n)
  := by
  obtain ⟨negative, digits, signed, all, rfl⟩ := denotes
  have spells : (⟨negative, digits, [], none⟩ : Literal).Spells cs := by
    apply Literal.Spells.spelled _ .bare signed .bare
    rwa [Literal.digits, List.append_nil]
  have exponent : IntKind.int128.Holds 0 := by decide
  have scale : IntKind.int64.Holds 0 := by decide
  rw [read?_of_spells spells exponent scale, Literal.toDecimal, Literal.digits, List.append_nil]
  rfl

/-! ### The plain form -/

/-- The parts of the plain form of a decimal. -/
def literal (d : Decimal) : Literal :=
  let digits := decimalDigits d.unscaled.natAbs
  if d.scale ≤ 0 then
    ⟨decide (d.unscaled < 0), digits ++ List.replicate (-d.scale).toNat '0', [], none⟩
  else
    ⟨decide (d.unscaled < 0), wholeDigits digits d.scale.toNat, fractionDigits digits d.scale.toNat,
      none⟩

@[simp]
theorem exponent_literal (d : Decimal) :
  d.literal.exponent = none
  := by
  rw [literal]
  split <;> rfl

@[simp]
theorem length_fraction_literal (d : Decimal) :
  d.literal.fraction.length = d.scale.toNat
  := by
  rw [literal]
  split
  · rename_i flat
    exact (Int.toNat_eq_zero.mpr flat).symm
  · apply length_fractionDigits

theorem signed_signed (d : Decimal) (cs : List Char) :
  Signed cs (decide (d.unscaled < 0)) (d.signed cs)
  := by
  rw [signed]
  split
  · rename_i negative
    rw [decide_eq_true negative]
    apply Signed.minus
  · rename_i positive
    rw [decide_eq_false positive]
    apply Signed.bare

/-- The plain form of a decimal is a literal. -/
theorem spells_plain (d : Decimal) :
  d.literal.Spells d.plain.toList
  := by
  have all : ∀ c ∈ decimalDigits d.unscaled.natAbs, isDigit c :=
    fun _ => isDigit_of_mem_decimalDigits
  rw [plain, String.toList_ofList, plainDigits, literal]
  by_cases flat : d.scale ≤ 0
  · rw [if_pos flat, if_pos flat]
    apply Literal.Spells.spelled _ .bare (d.signed_signed _) .bare
    rw [Literal.digits, List.append_nil]
    constructor
    · simp [decimalDigits_ne_nil]
    · rw [List.forall_mem_append]
      exact ⟨all, isDigit_of_mem_zeros⟩
  · rw [if_neg flat, if_neg flat, withPoint_eq _ _ (by omega)]
    apply Literal.Spells.spelled _ (.point _) (d.signed_signed _) .bare
    rw [Literal.digits, wholeDigits_append_fractionDigits]
    exact ⟨spread_ne_nil _ _, isDigit_of_mem_spread all _⟩

/-- The plain form of a decimal denotes the decimal, without a negative scale. -/
theorem toDecimal_literal (d : Decimal) :
  d.literal.toDecimal = d.flat
  := by
  have sign : withSign (decide (d.unscaled < 0)) d.unscaled.natAbs = d.unscaled := by
    rw [withSign]
    simp only [decide_eq_true_eq]
    omega
  rw [Literal.toDecimal, Literal.scale, length_fraction_literal, exponent_literal, digitsValue_eq,
    Literal.digits, literal, flat]
  by_cases flat : d.scale ≤ 0
  · rw [if_pos flat, if_pos flat, List.append_nil, Nat.ofDigitChars_append,
      Nat.ofDigitChars_replicate_zero, ofDigitChars_decimalDigits, withSign_mul, sign,
      Int.natCast_pow, Int.toNat_eq_zero.mpr flat]
    rfl
  · have places : ((d.scale.toNat : Int)) = d.scale := by omega
    rw [if_neg flat, if_neg flat, wholeDigits_append_fractionDigits, ofDigitChars_spread,
      ofDigitChars_decimalDigits, sign, places, Option.getD_none, Int.sub_zero]

/-- A decimal in plain form is read back without a negative scale. -/
theorem read?_plain {d : Decimal} (small : d.scale ≤ IntKind.int64.hi) :
  read? d.plain.toList = some d.flat
  := by
  rw [← toDecimal_literal]
  apply read?_of_spells d.spells_plain
  · rw [exponent_literal]
    decide
  · have low : IntKind.int64.lo ≤ 0 := by decide
    have high : 0 ≤ IntKind.int64.hi := by decide
    rw [Literal.scale, length_fraction_literal, exponent_literal, Option.getD_none]
    constructor <;> omega

end Decimal

end OlapClient.Number
