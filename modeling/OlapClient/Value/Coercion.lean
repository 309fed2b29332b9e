import OlapClient.Failure

/-!
# Reading the text of a value

`coerce` reads a text by a schema type.  Blanks at the ends count for strings only.  A failure
carries the name of the field and the declared type.
-/

namespace OlapClient

open OlapClient.Number
open OlapClient.Calendar
open OlapClient.Schema
open OlapClient.Text

/-- Reads a truth value: `true` or `false` in any letter case, `1` or `0`. -/
def readBoolean (cs : List Char) : Except CoercionFault Bool :=
  let word := String.ofList (cs.map Char.toLower)
  if word = "true" ∨ word = "1" then .ok true
  else if word = "false" ∨ word = "0" then .ok false
  else .error (.notBoolean (String.ofList cs))

/-- Reads a moment. -/
def readMoment (cs : List Char) : Except CoercionFault Moment :=
  match Moment.read cs with
  | .ok m => .ok m
  | .error .noSeparator => .error (.noTimeSeparator (String.ofList cs))
  | .error .notInCalendar => .error .unreadable

/-- Reads an integer of the format `k`. -/
def readInteger (k : IntKind) (cs : List Char) : Except CoercionFault (Bounded k) :=
  (readBounded 10 k cs).mapError .numeral

/-- Reads a floating point datum of the format `f`. -/
def readFloat (f : BinaryFormat) (cs : List Char) : Except CoercionFault (Binary f) :=
  (Binary.read f cs).mapError .float

/-- A reading that fails without a reason. -/
def orUnreadable {α : Type} : Option α → Except CoercionFault α
  | some a => .ok a
  | none => .error .unreadable

/-- Reads a text as a value of a schema type. -/
def readValue (type : SchemaType) (text : String) : Except CoercionFault Value :=
  let cs := trim text.toList
  match type with
  | .boolean => .boolean <$> readBoolean cs
  | .byte => .byte <$> readInteger .int8 cs
  | .short | .unsignedByte => .short <$> readInteger .int16 cs
  | .int | .unsignedShort => .int <$> readInteger .int32 cs
  | .long | .unsignedInt => .long <$> readInteger .int64 cs
  | .integer | .positiveInteger => .integer <$> orUnreadable (readWhole cs)
  | .float => .float <$> readFloat .single cs
  | .double => .double <$> readFloat .double cs
  | .decimal | .unsignedLong => .decimal <$> orUnreadable (Decimal.read? cs)
  | .dateTime => .dateTime <$> readMoment cs
  | .string => .ok (.string text)

/-- Reads the text of a field as a value of its schema type.  The field only labels the
failure. -/
def coerce (text field : String) (type : SchemaType) : Except Failure Value :=
  (readValue type text).mapError (.coercion field type)

end OlapClient
