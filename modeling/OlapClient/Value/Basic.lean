import OlapClient.Calendar.Numeral
import OlapClient.Number.Binary.Shortest
import OlapClient.Schema.Type

/-!
# Values

A `Value` is what a field or a cell holds once its text has been read by its schema type.
Unsigned schema types have no variant of their own: their values are held in the next wider
signed variant, which has room for all of them.  `Value.text?` writes a value as schema text,
and `Value.schemaType` names the type that reads the text back.
-/

namespace OlapClient

open OlapClient.Number
open OlapClient.Calendar
open OlapClient.Schema

/-- The value of a field or a cell; `null` stands for one that is absent. -/
inductive Value where
  | null
  | boolean (b : Bool)
  | byte (n : Bounded .int8)
  | short (n : Bounded .int16)
  | int (n : Bounded .int32)
  | long (n : Bounded .int64)
  | integer (n : Int)
  | float (x : Binary .single)
  | double (x : Binary .double)
  | decimal (d : Decimal)
  | dateTime (m : Moment)
  | string (s : String)
  deriving DecidableEq, Repr

namespace Value

/-- A value is absent. -/
def isNull : Value → Bool
  | null => true
  | _ => false

/-- The schema type whose texts give values of this variant. -/
def schemaType : Value → SchemaType
  | null | string _ => .string
  | boolean _ => .boolean
  | byte _ => .byte
  | short _ => .short
  | int _ => .int
  | long _ => .long
  | integer _ => .integer
  | float _ => .float
  | double _ => .double
  | decimal _ => .decimal
  | dateTime _ => .dateTime

/-- The spellings that a schema text has for floating point data that are no finite
numbers. -/
def schemaSpecials : Binary.SpecialTexts :=
  ⟨"NaN", "INF", "-INF"⟩

/-- A truth value in words. -/
def booleanText (b : Bool) : String :=
  if b then "true" else "false"

/-- A value as schema text; nothing for an absent value. -/
def text? : Value → Option String
  | null => none
  | boolean b => some (booleanText b)
  | byte n => some (decimalText n.val)
  | short n => some (decimalText n.val)
  | int n => some (decimalText n.val)
  | long n => some (decimalText n.val)
  | integer n => some (decimalText n)
  | float x => some (x.text schemaSpecials)
  | double x => some (x.text schemaSpecials)
  | decimal d => some d.plain
  | dateTime m => some m.text
  | string s => some s

/-- A value for display: its schema text, or `NULL` where it is absent. -/
def display (v : Value) : String :=
  v.text?.getD "NULL"

/-- Two values are the same, decimals of different scales being compared as numbers. -/
def Same : Value → Value → Prop
  | decimal a, decimal b => a.SameValue b
  | a, b => a = b

end Value

end OlapClient
