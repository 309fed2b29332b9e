/-!
# Schema types and native types

A result names the type of each of its values by a schema type such as `xsd:int`.  The
registry lists every known schema type with the native type it is reported as.  Look-ups by
name and by native type never fail: what is not in the registry is `xsd:string`, so a value
of an unknown type can still be read as text.
-/

namespace OlapClient.Schema

/-- The scalar type a column or a cell is reported as. -/
inductive NativeType where
  | tinyInt
  | smallInt
  | integer
  | bigInt
  | float
  | double
  | decimal
  | boolean
  | varChar
  | date
  deriving DecidableEq, Repr

/-- The name of a native type. -/
def NativeType.name : NativeType → String
  | .tinyInt => "TINYINT"
  | .smallInt => "SMALLINT"
  | .integer => "INTEGER"
  | .bigInt => "BIGINT"
  | .float => "FLOAT"
  | .double => "DOUBLE"
  | .decimal => "DECIMAL"
  | .boolean => "BOOLEAN"
  | .varChar => "VARCHAR"
  | .date => "DATE"

/-- The type of a value in an XML schema. -/
inductive SchemaType where
  | int
  | integer
  | double
  | positiveInteger
  | decimal
  | short
  | float
  | long
  | boolean
  | byte
  | unsignedByte
  | unsignedShort
  | unsignedLong
  | unsignedInt
  | string
  | dateTime
  deriving DecidableEq, Repr

namespace SchemaType

/-- The qualified name of a schema type. -/
def name : SchemaType → String
  | .int => "xsd:int"
  | .integer => "xsd:integer"
  | .double => "xsd:double"
  | .positiveInteger => "xsd:positiveInteger"
  | .decimal => "xsd:decimal"
  | .short => "xsd:short"
  | .float => "xsd:float"
  | .long => "xsd:long"
  | .boolean => "xsd:boolean"
  | .byte => "xsd:byte"
  | .unsignedByte => "xsd:unsignedByte"
  | .unsignedShort => "xsd:unsignedShort"
  | .unsignedLong => "xsd:unsignedLong"
  | .unsignedInt => "xsd:unsignedInt"
  | .string => "xsd:string"
  | .dateTime => "xsd:dateTime"

/-- The native type a schema type is reported as. -/
def native : SchemaType → NativeType
  | .int | .integer | .positiveInteger | .unsignedInt => .integer
  | .double => .double
  | .decimal => .decimal
  | .short | .unsignedShort => .smallInt
  | .float => .float
  | .long | .unsignedLong => .bigInt
  | .boolean => .boolean
  | .byte | .unsignedByte => .tinyInt
  | .string => .varChar
  | .dateTime => .date

/-- A schema type has a sign; types without numbers count as signed. -/
def isSigned : SchemaType → Bool
  | .unsignedByte | .unsignedShort | .unsignedLong | .unsignedInt => false
  | _ => true

/-- The registry: every schema type once, in its fixed order. -/
def all : List SchemaType :=
  [.int, .integer, .double, .positiveInteger, .decimal, .short, .float, .long, .boolean, .byte,
    .unsignedByte, .unsignedShort, .unsignedLong, .unsignedInt, .string, .dateTime]

/-- The schema type with a given name, or `string`. -/
def ofName (name : String) : SchemaType :=
  (all.find? (·.name = name)).getD .string

/-- The schema type of a native type and a sign, or `string`.  Of several schema types that
share both, the last one of the registry is taken. -/
def ofNative (native : NativeType) (signed : Bool) : SchemaType :=
  (all.reverse.find? fun t => t.native = native ∧ t.isSigned = signed).getD .string

/-- The registry leaves no schema type out. -/
theorem mem_all (t : SchemaType) :
  t ∈ all
  := by cases t <;> decide

/-- A schema type is found by its own name. -/
theorem ofName_name (t : SchemaType) :
  ofName t.name = t
  := by cases t <;> decide

end SchemaType

end OlapClient.Schema
