import Mathlib.Tactic.Common
import OlapClient.Proofs.Number.Checked
import OlapClient.Proofs.Number.Literal
import OlapClient.Proofs.Value.Integer

/-!
# Decimals read by their schema types

The types of decimals read every decimal literal whose scale is a signed 64-bit integer, as exactly
the number that the literal denotes, and what they have read is written as a literal of the same
number without an exponent (`coerce_literals`).  The exponent has no bound of its own: no text has
room for as many fraction digits as it takes to bring an exponent of more than 128 bits back to such
a scale.
-/

namespace OlapClient

open OlapClient.Number
open OlapClient.Schema
open OlapClient.Text

/-- The exponent of a literal is one of 128 bits if the literal is no longer than memory and its
scale is one of 64 bits. -/
theorem holds_exponent
    {l : Literal} {cs : List Char} (spells : l.Spells cs) (size : cs.length ≤ maxSize)
    (scale : IntKind.int64.Holds l.scale) :
  IntKind.int128.Holds (l.exponent.getD 0)
  := by
  have digits := spells.length_fraction_le
  have memory : maxSize = 18446744073709551615 := rfl
  have room {e : Int} (low : -2 ^ 127 ≤ e) (high : e ≤ 2 ^ 127 - 1) : IntKind.int128.Holds e :=
    ⟨low, high⟩
  rw [IntKind.holds_int64_iff, Literal.scale] at scale
  apply room <;> omega

/-- The types of decimals read every literal whose scale is a signed 64-bit integer.  They read
exactly the number that it denotes, and write it as a literal of that number without an exponent. -/
theorem coerce_literals
    {text field : String} {type : SchemaType} (decimal : type = .decimal ∨ type = .unsignedLong)
    (size : text.length ≤ maxSize) {l : Literal} (spells : l.Spells (trim text.toList))
    (scale : IntKind.int64.Holds l.scale) :
  ∃ d, coerce text field type = .ok (.decimal d) ∧ d.toRat = l.value
    ∧ ∃ (s : String) (l' : Literal), (Value.decimal d).text? = some s
      ∧ l'.Spells s.toList ∧ l'.exponent = none ∧ l'.value = l.value
  := by
  have memory : (trim text.toList).length ≤ maxSize := by
    apply Nat.le_trans (trim_sublist _).length_le
    rwa [String.length_toList]
  have read := Decimal.read?_of_spells spells (holds_exponent spells memory scale) scale
  use l.toDecimal
  split_ands
  · rw [coerce_eq_ok, readValue_of_decimal decimal, read]
    rfl
  · apply l.toRat_toDecimal
  · use l.toDecimal.plain, l.toDecimal.literal, rfl, l.toDecimal.spells_plain,
      l.toDecimal.exponent_literal
    rw [← Literal.toRat_toDecimal, Decimal.toDecimal_literal, Decimal.sameValue_flat,
      l.toRat_toDecimal]

/-- A literal with zeros on both sides, a minus sign and a negative exponent, among blanks: minus
seven and a quarter thousandths, read as an unsigned type. -/
theorem coerce_literals_thousandths :
  (⟨true, ['0', '0', '7'], ['2', '5', '0'], some (-3)⟩ : Literal).Spells
      (trim "\t-007.250E-3 ".toList)
    ∧ IntKind.int64.Holds (⟨true, ['0', '0', '7'], ['2', '5', '0'], some (-3)⟩ : Literal).scale
    ∧ ∃ d, coerce "\t-007.250E-3 " "Amount" .unsignedLong = .ok (.decimal d)
      ∧ d.toRat = -29 / 4000
      ∧ ∃ (s : String) (l' : Literal), (Value.decimal d).text? = some s
        ∧ l'.Spells s.toList ∧ l'.exponent = none ∧ l'.value = -29 / 4000
  := by
  have spells : (⟨true, ['0', '0', '7'], ['2', '5', '0'], some (-3)⟩ : Literal).Spells
      (trim "\t-007.250E-3 ".toList) :=
    .spelled ⟨by decide, List.all_eq_true.mp rfl⟩ (.point _) .minus
      (.raised (.inr rfl) ⟨true, ['3'], .minus, ⟨by decide, List.all_eq_true.mp rfl⟩, rfl⟩)
  have value : (⟨true, ['0', '0', '7'], ['2', '5', '0'], some (-3)⟩ : Literal).value = -29 / 4000 := by
    decide +kernel
  have literals := @coerce_literals "\t-007.250E-3 " "Amount" .unsignedLong (.inr rfl) (by decide)
    _ spells (by decide)
  rw [value] at literals
  exact ⟨spells, by decide, literals⟩

end OlapClient
