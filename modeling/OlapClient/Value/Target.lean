import OlapClient.Number.Fixed
import OlapClient.Value.Basic

/-!
# Targets of a getter

A caller who asks for a value names the type it should have.  `Target` lists these types,
`Target.Native` is the Lean type of the answer and `Target.name` the name that error texts
give it.  `Value.Kind` is what error texts call the variant of a value.
-/

namespace OlapClient

open OlapClient.Number
open OlapClient.Calendar

/-- The fixed-width integer types a caller may ask for. -/
inductive IntegerTarget where
  | int8
  | int16
  | int32
  | int64
  | int128
  | nat8
  | nat16
  | nat32
  | nat64
  deriving DecidableEq, Repr

/-- The format of a fixed-width integer type. -/
def IntegerTarget.kind : IntegerTarget → IntKind
  | .int8 => .int8
  | .int16 => .int16
  | .int32 => .int32
  | .int64 => .int64
  | .int128 => .int128
  | .nat8 => .nat8
  | .nat16 => .nat16
  | .nat32 => .nat32
  | .nat64 => .nat64

/-- The name of a fixed-width integer type. -/
def IntegerTarget.name : IntegerTarget → String
  | .int8 => "i8"
  | .int16 => "i16"
  | .int32 => "i32"
  | .int64 => "i64"
  | .int128 => "i128"
  | .nat8 => "u8"
  | .nat16 => "u16"
  | .nat32 => "u32"
  | .nat64 => "u64"

/-- The types a caller may ask for. -/
inductive Target where
  | boolean
  | bounded (t : IntegerTarget)
  | whole
  | single
  | double
  | decimal
  | fixedDecimal
  | moment
  | text
  | value
  deriving DecidableEq, Repr

/-- The type of the answers for a target. -/
abbrev Target.Native : Target → Type
  | .boolean => Bool
  | .bounded t => Bounded t.kind
  | .whole => Int
  | .single => Binary .single
  | .double => Binary .double
  | .decimal => Decimal
  | .fixedDecimal => FixedDecimal
  | .moment => Moment
  | .text => String
  | .value => Value

/-- The name of a target in error texts. -/
def Target.name : Target → String
  | .boolean => "bool"
  | .bounded t => t.name
  | .whole => "num_bigint::bigint::BigInt"
  | .single => "f32"
  | .double => "f64"
  | .decimal => "bigdecimal::BigDecimal"
  | .fixedDecimal => "rust_decimal::decimal::Decimal"
  | .moment => "chrono::datetime::DateTime<chrono::offset::utc::Utc>"
  | .text => "alloc::string::String"
  | .value => "Value"

/-- What error texts call the variant of a value. -/
def Value.kindName : Value → String
  | .null => "NULL"
  | .boolean _ => "BOOLEAN"
  | .byte _ => "TINYINT (i8)"
  | .short _ => "SMALLINT (i16)"
  | .int _ => "INTEGER (i32)"
  | .long _ => "BIGINT (i64)"
  | .integer _ => "INTEGER"
  | .float _ => "FLOAT (f32)"
  | .double _ => "DOUBLE (f64)"
  | .decimal _ => "DECIMAL"
  | .dateTime _ => "DATE"
  | .string _ => "VARCHAR"

end OlapClient
