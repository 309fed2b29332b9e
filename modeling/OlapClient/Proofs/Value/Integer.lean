import Mathlib.Tactic.Common
import OlapClient.Proofs.Number.Literal
import OlapClient.Proofs.Results
import OlapClient.Proofs.Value.Text
import OlapClient.Value.Decoding

/-!
# Integers read by their schema types

A schema type of integers is held in a fixed width, or as an integer or a decimal of any size.  The
types of a fixed width all read numerals alike: `coerce_numerals` says that they read the numerals
of the integers that the width has room for, and that the others read every numeral.
`coerce_spaced_numerals` says what the types of integers of any size read beside the numerals, and
`underscored_coerced` has a text that is no numeral and is read all the same.
-/

namespace OlapClient

open OlapClient.Number
open OlapClient.Schema
open OlapClient.Text

/-! ### Widths -/

/-- The widths in which values hold integers. -/
inductive Width where
  | int8
  | int16
  | int32
  | int64
  deriving DecidableEq, Repr

/-- The format of a width. -/
def Width.kind : Width → IntKind
  | .int8 => .int8
  | .int16 => .int16
  | .int32 => .int32
  | .int64 => .int64

/-- The value that holds an integer of a width. -/
def Width.value : (w : Width) → Bounded w.kind → Value
  | .int8 => .byte
  | .int16 => .short
  | .int32 => .int
  | .int64 => .long

/-- The width that holds the integers of a schema type, if there is one. -/
def width? : SchemaType → Option Width
  | .byte => some .int8
  | .short | .unsignedByte => some .int16
  | .int | .unsignedShort => some .int32
  | .long | .unsignedInt => some .int64
  | _ => none

/-- The integers of a schema type without a sign. -/
def unsignedKind? : SchemaType → Option IntKind
  | .unsignedByte => some .nat8
  | .unsignedShort => some .nat16
  | .unsignedInt => some .nat32
  | .unsignedLong => some .nat64
  | _ => none

theorem Width.signed_kind (w : Width) :
  w.kind.signed
  := by cases w <;> rfl

theorem Width.value_injective (w : Width) :
  Function.Injective w.value
  := by
  intro n n' same
  cases w <;> injection same

theorem Width.exactNumber?_value (w : Width) (n : Bounded w.kind) :
  (w.value n).exactNumber? = some (.ofInt n.val)
  := by cases w <;> rfl

/-- The width of a schema type without a sign has room for its integers. -/
theorem holds_of_unsignedKind?
    {type : SchemaType} {w : Width} {k : IntKind} (width : width? type = some w)
    (unsigned : unsignedKind? type = some k) {n : Int} (h : k.Holds n) :
  w.kind.Holds n
  := by
  have room {k k' : IntKind} (low : k'.lo ≤ k.lo) (high : k.hi ≤ k'.hi) (h : k.Holds n) :
      k'.Holds n :=
    ⟨Int.le_trans low h.1, Int.le_trans h.2 high⟩
  cases type <;> cases unsigned <;> cases width <;> exact room (by decide) (by decide) h

/-! ### Reading -/

theorem readValue_of_width
    {type : SchemaType} {w : Width} (width : width? type = some w) (text : String) :
  readValue type text = w.value <$> readInteger w.kind (trim text.toList)
  := by cases type <;> cases width <;> rfl

theorem readValue_of_whole
    {type : SchemaType} (whole : type = .integer ∨ type = .positiveInteger) (text : String) :
  readValue type text = .integer <$> orUnreadable (readWhole (trim text.toList))
  := by rcases whole with rfl | rfl <;> rfl

theorem readValue_of_decimal
    {type : SchemaType} (decimal : type = .decimal ∨ type = .unsignedLong) (text : String) :
  readValue type text = .decimal <$> orUnreadable (Decimal.read? (trim text.toList))
  := by rcases decimal with rfl | rfl <;> rfl

variable {text field : String} {type : SchemaType}

/-- The types of one width read the numerals of the integers of the width. -/
theorem coerce_of_width {w : Width} (width : width? type = some w) {v : Value} :
  coerce text field type = .ok v
    ↔ ∃ n : Bounded w.kind, Denotes (trim text.toList) n.val ∧ v = w.value n
  := by
  rw [coerce_eq_ok, readValue_of_width width, map_eq_ok_iff]
  apply exists_congr
  intro n
  apply and_congr_left
  intro _
  rw [readInteger, mapError_eq_ok_iff, readBounded_eq_ok_iff]
  constructor
  · apply DenotesIn.denotes
  · intro denotes
    exact ⟨denotes, n.holds, .inl w.signed_kind⟩

/-- The types of integers of any size read the numerals that may have underscores in them. -/
theorem coerce_of_whole (whole : type = .integer ∨ type = .positiveInteger) {v : Value} :
  coerce text field type = .ok v ↔ ∃ n, DenotesSpaced (trim text.toList) n ∧ v = .integer n
  := by
  rw [coerce_eq_ok, readValue_of_whole whole, map_eq_ok_iff]
  simp only [orUnreadable_eq_ok_iff, readWhole_eq_some_iff]

theorem coerce_integer_of_denotes
    (whole : type = .integer ∨ type = .positiveInteger) {n : Int}
    (denotes : Denotes (trim text.toList) n) :
  coerce text field type = .ok (.integer n)
  := (coerce_of_whole whole).mpr ⟨n, (denotes_iff.mp denotes).1, rfl⟩

theorem coerce_decimal_of_denotes
    (decimal : type = .decimal ∨ type = .unsignedLong) {n : Int}
    (denotes : Denotes (trim text.toList) n) :
  coerce text field type = .ok (.decimal (.ofInt n))
  := by
  rw [coerce_eq_ok, readValue_of_decimal decimal, Decimal.read?_of_denotes denotes]
  rfl

/-- Every integer of a type without a sign is read from its numerals. -/
theorem coerce_of_unsigned
    {k : IntKind} (unsigned : unsignedKind? type = some k) {n : Int} (holds : k.Holds n)
    (denotes : Denotes (trim text.toList) n) :
  ∃ v, coerce text field type = .ok v ∧ v.exactNumber? = some (.ofInt n)
  := by
  cases width : width? type with
  | some w =>
    have room := holds_of_unsignedKind? width unsigned holds
    use w.value ⟨n, room⟩, (coerce_of_width width).mpr ⟨⟨n, room⟩, denotes, rfl⟩
    apply w.exactNumber?_value
  | none =>
    have long : type = .unsignedLong := by cases type <;> trivial
    exact ⟨_, coerce_decimal_of_denotes (.inr long) denotes, rfl⟩

theorem coercion_of_coerce {failure : Failure} (refused : coerce text field type = .error failure) :
  ∃ fault, failure = .coercion field type fault
  := by
  rw [coerce] at refused
  cases read : readValue type text with
  | ok v =>
    rw [read] at refused
    cases refused
  | error fault =>
    rw [read] at refused
    cases refused
    exact ⟨fault, rfl⟩

/-- The types of a fixed width read the numerals of the integers that the width has room for, among
them those of every integer of a type without a sign, and the other types read every numeral.  No
reading changes the integer, and a refusal names the field and its declared type. -/
theorem coerce_numerals (text field : String) :
  (∀ type w, width? type = some w → ∀ v,
      coerce text field type = .ok v
        ↔ ∃ n : Bounded w.kind, Denotes (trim text.toList) n.val ∧ v = w.value n)
    ∧ (∀ type k n, unsignedKind? type = some k → k.Holds n → Denotes (trim text.toList) n →
        ∃ v, coerce text field type = .ok v ∧ v.exactNumber? = some (.ofInt n))
    ∧ (∀ n, Denotes (trim text.toList) n →
        coerce text field .integer = .ok (.integer n)
          ∧ coerce text field .positiveInteger = .ok (.integer n)
          ∧ coerce text field .decimal = .ok (.decimal (.ofInt n))
          ∧ coerce text field .unsignedLong = .ok (.decimal (.ofInt n)))
    ∧ ∀ type failure, coerce text field type = .error failure →
        (∃ fault, failure = .coercion field type fault)
          ∧ failure.message
            = "Error while casting field '" ++ field ++ "' to the native type for its XSD type "
              ++ type.name
  := by
  split_ands
  · intro type w width v
    apply coerce_of_width width
  · intro type k n unsigned holds denotes
    apply coerce_of_unsigned unsigned holds denotes
  · intro n denotes
    split_ands
    · apply coerce_integer_of_denotes (.inl rfl) denotes
    · apply coerce_integer_of_denotes (.inr rfl) denotes
    · apply coerce_decimal_of_denotes (.inl rfl) denotes
    · apply coerce_decimal_of_denotes (.inr rfl) denotes
  · intro type failure refused
    obtain ⟨fault, rfl⟩ := coercion_of_coerce refused
    exact ⟨⟨fault, rfl⟩, rfl⟩

/-! ### Underscores -/

/-- A type of integers of any size reads a text as an integer that the text denotes but for its
underscores. -/
theorem denotes_iff_coerce (whole : type = .integer ∨ type = .positiveInteger) {n : Int} :
  Denotes (trim text.toList) n
    ↔ coerce text field type = .ok (.integer n) ∧ '_' ∉ trim text.toList
  := by
  rw [denotes_iff, coerce_of_whole whole]
  apply and_congr_left
  intro _
  constructor
  · intro spaced
    exact ⟨n, spaced, rfl⟩
  · rintro ⟨n', spaced, same⟩
    injection same with same
    rwa [same]

/-- A width that has room for an integer reads it from its numerals. -/
theorem coerce_value_iff {w : Width} (width : width? type = some w) (n : Bounded w.kind) :
  coerce text field type = .ok (w.value n) ↔ Denotes (trim text.toList) n.val
  := by
  rw [coerce_of_width width]
  constructor
  · rintro ⟨n', denotes, same⟩
    rwa [w.value_injective same]
  · intro denotes
    exact ⟨n, denotes, rfl⟩

/-- The types of integers of any size read numerals with underscores behind the first digit or
without them.  The texts without underscores are the numerals, and those a type of a fixed width
reads alike where it has room for the integer. -/
theorem coerce_spaced_numerals
    {text field : String} {type : SchemaType} (whole : type = .integer ∨ type = .positiveInteger) :
  (∀ v, coerce text field type = .ok v
      ↔ ∃ n, DenotesSpaced (trim text.toList) n ∧ v = .integer n)
    ∧ (∀ n, Denotes (trim text.toList) n
        ↔ coerce text field type = .ok (.integer n) ∧ '_' ∉ trim text.toList)
    ∧ ∀ bounded w, width? bounded = some w → ∀ n : Bounded w.kind,
        coerce text field bounded = .ok (w.value n)
          ↔ coerce text field type = .ok (.integer n.val) ∧ '_' ∉ trim text.toList
  := by
  split_ands
  · intro v
    apply coerce_of_whole whole
  · intro n
    apply denotes_iff_coerce whole
  · intro bounded w width n
    rw [coerce_value_iff width, ← denotes_iff_coerce whole]

/-- With a thousand written in two groups: it is read as an integer of any size, and not in 32
bits. -/
theorem coerce_spaced_numerals_thousand :
  coerce " 1_000 " "f" .positiveInteger = .ok (.integer 1000)
    ∧ ¬ Denotes (trim " 1_000 ".toList) 1000
    ∧ coerce " 1_000 " "f" .int ≠ .ok (.int ⟨1000, by decide⟩)
  := by
  obtain ⟨-, numerals, widths⟩ :=
    @coerce_spaced_numerals " 1_000 " "f" .positiveInteger (.inr rfl)
  have underscore : ¬ '_' ∉ trim " 1_000 ".toList := by decide
  use by decide
  constructor
  · intro denotes
    apply underscore ((numerals 1000).mp denotes).2
  · intro read
    apply underscore ((widths .int .int32 rfl ⟨1000, by decide⟩).mp read).2

/-- Not every text that is read as an integer of any size is a numeral. -/
theorem underscored_coerced :
  ¬ ∀ text field v, coerce text field .integer = .ok v →
      ∃ n, Denotes (trim text.toList) n
  := by
  intro numerals
  obtain ⟨n, denotes⟩ := numerals "1_000" "f" (.integer 1000) (by decide)
  apply (denotes_iff.mp denotes).2
  decide

end OlapClient
