import Mathlib.Tactic.Common
import OlapClient.Proofs.Calendar.Moment
import OlapClient.Proofs.Number.Literal
import OlapClient.Proofs.Results
import OlapClient.Value.Coercion

/-!
# Values read back

Whatever text a value was read from, the value writes a text of its own, and that text is read by
the same schema type as the same value.  Decimals may come back with another scale, but not as
another number.  Floating point types are left aside.

A value does not remember whether its type had a sign: a value that was read as an unsigned type
names the wider signed type.  `text_reads_back` says that its text can be read by either.
-/

namespace OlapClient

open OlapClient.Calendar
open OlapClient.Number
open OlapClient.Schema
open OlapClient.Text

theorem Value.Same.refl (v : Value) :
  v.Same v
  := by
  cases v <;> rfl

/-! ### Texts without blanks -/

theorem trim_sublist (cs : List Char) :
  (trim cs).Sublist cs
  := by
  have dropped (cs : List Char) : (cs.dropWhile isBlank).Sublist cs := List.dropWhile_sublist isBlank
  have kept : (trim cs).Sublist (trimStart cs) := by
    apply List.reverse_sublist.mp
    rw [trim, trimEnd, List.reverse_reverse]
    apply dropped
  apply kept.trans (dropped cs)

/-- A text without blanks is its own trimmed form. -/
theorem trim_of_forall {cs : List Char} (h : ∀ c ∈ cs, isBlank c = false) :
  trim cs = cs
  := by
  apply trim_eq_self
  · intro c hc
    apply h c (List.mem_of_mem_head? hc)
  · intro c hc
    apply h c (List.mem_reverse.mp (List.mem_of_mem_head? hc))

theorem isBlank_of_isPlain {c : Char} (h : Decimal.isPlain c) :
  isBlank c = false
  := by
  simp only [Decimal.isPlain, Bool.or_eq_true, beq_iff_eq] at h
  rcases h with (digit | rfl) | rfl
  · apply isBlank_of_isDigit digit
  · decide
  · decide

theorem isBlank_of_mem_decimalText (n : Int) :
  ∀ c ∈ (decimalText n).toList, isBlank c = false
  := by
  have digits : ∀ c ∈ decimalDigits n.natAbs, isBlank c = false :=
    fun c hc => isBlank_of_isDigit (isDigit_of_mem_decimalDigits hc)
  rw [decimalText, String.toList_ofList]
  split
  · rw [List.forall_mem_cons]
    exact ⟨by decide, digits⟩
  · apply digits

/-! ### Reading each kind of text -/

theorem readBoolean_booleanText (b : Bool) :
  readBoolean (trim (Value.booleanText b).toList) = .ok b
  := by
  cases b <;> decide

theorem readInteger_decimalText {k : IntKind} (n : Bounded k) :
  readInteger k (trim (decimalText n.val).toList) = .ok n
  := by
  rw [trim_of_forall (isBlank_of_mem_decimalText n.val), readInteger, readBounded_decimalText]
  rfl

theorem readWhole_trim_decimalText (n : Int) :
  (orUnreadable ∘ readWhole) (trim (decimalText n).toList) = .ok n
  := by
  rw [Function.comp_apply, trim_of_forall (isBlank_of_mem_decimalText n), readWhole_decimalText]
  rfl

theorem read?_trim_plain {d : Decimal} (small : d.scale ≤ IntKind.int64.hi) :
  orUnreadable (Decimal.read? (trim d.plain.toList)) = .ok d.flat
  := by
  rw [trim_of_forall fun c hc => isBlank_of_isPlain (Decimal.isPlain_of_mem_plain d c hc),
    Decimal.read?_plain small]
  rfl

theorem readMoment_text (m : Moment) :
  readMoment (trim m.text.toList) = .ok m
  := by
  rw [trim_of_forall (isBlank_of_mem_text m), readMoment, Moment.read_text]

/-! ### Values -/

theorem orUnreadable_eq_ok_iff {α : Type} {o : Option α} {a : α} :
  orUnreadable o = .ok a ↔ o = some a
  := by cases o <;> simp [orUnreadable]

/-- A value has a text that its schema type reads as the same value. -/
def Rereads (type : SchemaType) (v : Value) : Prop :=
  ∃ s v', v.text? = some s ∧ readValue type s = .ok v' ∧ v'.Same v

/-- A kind of value is read back if its texts are. -/
theorem Rereads.of_kind
    {α : Type} {type : SchemaType} {make : α → Value} {read : List Char → Except CoercionFault α}
    {write : α → String} (form : ∀ s, readValue type s = make <$> read (trim s.toList))
    (writes : ∀ a, (make a).text? = some (write a))
    (back : ∀ a, read (trim (write a).toList) = .ok a)
    {text : String} {v : Value} (h : readValue type text = .ok v) :
  Rereads type v
  := by
  rw [form] at h
  obtain ⟨a, -, rfl⟩ := map_eq_ok_iff.mp h
  use write a, make a, writes a
  constructor
  · rw [form, back]
    rfl
  · apply Value.Same.refl

theorem Rereads.of_decimal
    {type : SchemaType}
    (form : ∀ s, readValue type s = Value.decimal <$> orUnreadable (Decimal.read? (trim s.toList)))
    {text : String} {v : Value} (h : readValue type text = .ok v) :
  Rereads type v
  := by
  rw [form] at h
  obtain ⟨d, read, rfl⟩ := map_eq_ok_iff.mp h
  have small := Decimal.scale_le_of_read? (orUnreadable_eq_ok_iff.mp read)
  use d.plain, .decimal d.flat, rfl
  constructor
  · rw [form, read?_trim_plain small]
    rfl
  · apply d.sameValue_flat

/-- A value that was read as any schema type but a floating point one is read back. -/
theorem rereads_of_readValue
    {type : SchemaType} {text : String} {v : Value} (h : readValue type text = .ok v)
    (float : type ≠ .float) (double : type ≠ .double) :
  Rereads type v
  := by
  have integer {k : IntKind} (n : Bounded k) := readInteger_decimalText n
  cases type with
  | float => contradiction
  | double => contradiction
  | boolean => apply Rereads.of_kind (fun _ => rfl) (fun _ => rfl) readBoolean_booleanText h
  | byte => apply Rereads.of_kind (fun _ => rfl) (fun _ => rfl) integer h
  | short => apply Rereads.of_kind (fun _ => rfl) (fun _ => rfl) integer h
  | unsignedByte => apply Rereads.of_kind (fun _ => rfl) (fun _ => rfl) integer h
  | int => apply Rereads.of_kind (fun _ => rfl) (fun _ => rfl) integer h
  | unsignedShort => apply Rereads.of_kind (fun _ => rfl) (fun _ => rfl) integer h
  | long => apply Rereads.of_kind (fun _ => rfl) (fun _ => rfl) integer h
  | unsignedInt => apply Rereads.of_kind (fun _ => rfl) (fun _ => rfl) integer h
  | integer =>
    apply Rereads.of_kind (fun _ => rfl) (fun _ => rfl) readWhole_trim_decimalText h
  | positiveInteger =>
    apply Rereads.of_kind (fun _ => rfl) (fun _ => rfl) readWhole_trim_decimalText h
  | decimal => apply Rereads.of_decimal (fun _ => rfl) h
  | unsignedLong => apply Rereads.of_decimal (fun _ => rfl) h
  | dateTime => apply Rereads.of_kind (fun _ => rfl) (fun _ => rfl) readMoment_text h
  | string =>
    injection h with same
    use text, v
    rw [← same]
    exact ⟨rfl, rfl, rfl⟩

/-- The type that a value names reads every text as the type that the value was read by. -/
theorem readValue_schemaType
    {type : SchemaType} {text : String} {v : Value} (h : readValue type text = .ok v) (s : String) :
  readValue v.schemaType s = readValue type s
  := by
  unfold readValue at h
  cases type with
  | string =>
    injection h with same
    rw [← same]
    rfl
  | boolean | byte | short | unsignedByte | int | unsignedShort | long | unsignedInt | integer
  | positiveInteger | float | double | decimal | unsignedLong | dateTime =>
    -- what was read decides the variant, and the variant alone decides the type
    obtain ⟨a, -, rfl⟩ := map_eq_ok_iff.mp h
    rfl

theorem coerce_eq_ok {text field : String} {type : SchemaType} {v : Value} :
  coerce text field type = .ok v ↔ readValue type text = .ok v
  := by
  rw [coerce]
  cases readValue type text <;> simp [Except.mapError]

/-- The text of a value that was read from a field is read by any field of the same type as the
same value. -/
theorem coerce_text
    {text field : String} {type : SchemaType} {v : Value} (h : coerce text field type = .ok v)
    (float : type ≠ .float) (double : type ≠ .double) (field' : String) :
  ∃ s v', v.text? = some s ∧ coerce s field' type = .ok v' ∧ v'.Same v
  := by
  obtain ⟨s, v', written, read, same⟩ := rereads_of_readValue (coerce_eq_ok.mp h) float double
  use s, v', written
  constructor
  · apply coerce_eq_ok.mpr read
  · apply same

/-- A value that was read from a field writes a text that is read as the same value by any field
of the type that the value names, and by any field of the type that it was read by. -/
theorem text_reads_back
    {text field : String} {type : SchemaType} {v : Value} (h : coerce text field type = .ok v)
    (float : type ≠ .float) (double : type ≠ .double) :
  ∃ s, v.text? = some s ∧ ∀ field',
    (∃ v', coerce s field' v.schemaType = .ok v' ∧ v'.Same v)
    ∧ (∃ v', coerce s field' type = .ok v' ∧ v'.Same v)
  := by
  have read := coerce_eq_ok.mp h
  obtain ⟨s, v', written, reread, same⟩ := rereads_of_readValue read float double
  use s, written
  intro field'
  constructor
  · use v'
    rw [coerce_eq_ok, readValue_schemaType read]
    exact ⟨reread, same⟩
  · use v'
    rw [coerce_eq_ok]
    exact ⟨reread, same⟩

/-- An unsigned number with blanks around it and an exponent, which is held as a decimal of a
negative scale. -/
theorem text_reads_back_unsigned :
  coerce "\t+12_0E3 " "Amount" .unsignedLong = .ok (.decimal ⟨120, -3⟩)
    ∧ ∃ s, (Value.decimal ⟨120, -3⟩).text? = some s ∧ ∀ field',
      (∃ v', coerce s field' .decimal = .ok v' ∧ v'.Same (.decimal ⟨120, -3⟩))
      ∧ (∃ v', coerce s field' .unsignedLong = .ok v' ∧ v'.Same (.decimal ⟨120, -3⟩))
  := by
  have read : coerce "\t+12_0E3 " "Amount" .unsignedLong = .ok (.decimal ⟨120, -3⟩) := by rfl
  constructor
  · apply read
  · apply text_reads_back read (by decide) (by decide)

end OlapClient
