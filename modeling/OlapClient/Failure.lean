import OlapClient.Number.Binary.Reading
import OlapClient.Url.Fault
import OlapClient.Value.Target

/-!
# Failures

`Failure` lists what can go wrong between a caller and a provider, each with its cause.  The
causes are data; their wording is in the `message` functions and nowhere else.
-/

namespace OlapClient

open OlapClient.Number
open OlapClient.Schema

/-- A fault that the provider reports in place of a result. -/
structure Fault where
  code : Option String
  reason : Option String
  actor : Option String
  detail : Option String
  /-- The whole fault element, laid out for reading. -/
  pretty : String
  deriving DecidableEq, Repr

/-- A fault in words. -/
def Fault.message (f : Fault) : String :=
  "XMLA provider gave exception: " ++ f.pretty

/-- What is wrong with a response document. -/
inductive Defect where
  /-- The octets are no text, or the text is no markup. -/
  | notWellFormed
  | unexpectedEnd
  | noRoot
  | secondRoot
  | unbalancedEndTag
  | unknownEntity (name : String)
  | invalidCharacterReference (name : String)
  | numeral (fault : NumeralFault)
  | notEnvelope (qname : String)
  | noBody
  | noResponse (element : String)
  | noReturn (element : String)
  | noRowsetRoot
  | noDatasetRoot
  | noCellOrdinal
  deriving DecidableEq, Repr

/-- The defect in words; nothing for markup that cannot be read at all. -/
def Defect.message? : Defect → Option String
  | .notWellFormed => none
  | .unexpectedEnd => some "unexpected end of document"
  | .noRoot => some "document has no root element"
  | .secondRoot => some "multiple root elements"
  | .unbalancedEndTag => some "unbalanced end tag"
  | .unknownEntity name => some ("unknown entity &" ++ name ++ ";")
  | .invalidCharacterReference name => some ("invalid character reference &" ++ name ++ ";")
  | .numeral fault => some fault.message
  | .notEnvelope qname => some ("expected SOAP Envelope, found <" ++ qname ++ ">")
  | .noBody => some "SOAP Envelope has no Body"
  | .noResponse element => some ("SOAP Body has no " ++ element)
  | .noReturn element => some (element ++ " has no return element")
  | .noRowsetRoot => some "return element has no rowset root"
  | .noDatasetRoot => some "return element has no dataset root"
  | .noCellOrdinal => some "Cell has no CellOrdinal"

/-- Why a text is no value of its schema type. -/
inductive CoercionFault where
  | numeral (fault : NumeralFault)
  | float (fault : FloatFault)
  | notBoolean (text : String)
  | noTimeSeparator (text : String)
  /-- The text is no whole number, decimal or moment. -/
  | unreadable
  deriving DecidableEq, Repr

/-- The reason in words, where there are words for it. -/
def CoercionFault.message? : CoercionFault → Option String
  | .numeral fault => some fault.message
  | .float fault => some fault.message
  | .notBoolean text => some ("invalid boolean '" ++ text ++ "'")
  | .noTimeSeparator text => some ("missing 'T' between date and time in '" ++ text ++ "'")
  | .unreadable => none

/-- What a caller asked for and cannot have. -/
inductive Misuse where
  | wrongKind (kind : String) (target : Target)
  | outOfRange (shown : String) (target : Target)
  | columnOrdinal (ordinal : Nat)
  | columnLabel (label : String)
  | coordinateCount (expected actual : Nat)
  | coordinate (value : Nat) (axis : String) (length : Nat)
  | cellOrdinal (ordinal count : Nat)
  | cellCount (axes : Nat)
  /-- A receiver of events refuses to go on. -/
  | stopped (reason : String)
  deriving DecidableEq, Repr

/-- The misuse in words. -/
def Misuse.message : Misuse → String
  | .wrongKind kind target =>
    "Cannot decode XMLA value of type " ++ kind ++ " to " ++ target.name
  | .outOfRange shown target => "Value " ++ shown ++ " is out of range for " ++ target.name
  | .columnOrdinal ordinal => "Invalid column ordinal " ++ decimalText ordinal
  | .columnLabel label => "Invalid column label " ++ label
  | .coordinateCount expected actual =>
    "Expected " ++ decimalText expected ++ " coordinates, got " ++ decimalText actual
  | .coordinate value axis length =>
    "Coordinate " ++ decimalText value ++ " is out of range for " ++ axis ++ " of "
      ++ decimalText length ++ " positions"
  | .cellOrdinal ordinal count =>
    "Cell ordinal " ++ decimalText ordinal ++ " is out of range for " ++ decimalText count
      ++ " cells"
  | .cellCount axes => "Cell count of " ++ decimalText axes ++ " axes overflows usize"
  | .stopped reason => reason

/-- What is wrong with the settings of a connection. -/
inductive SettingFault where
  | url (fault : UrlFault)
  | scheme (name : String)
  | timeout (text : String) (fault : NumeralFault)
  | cookies (text : String)
  deriving DecidableEq, Repr

/-- The fault in words. -/
def SettingFault.message : SettingFault → String
  | .url fault => "Failed to parse XMLA URL: " ++ fault.message
  | .scheme name => "Invalid URL scheme '" ++ name ++ "', expected 'http' or 'https'"
  | .timeout text fault => "Invalid timeout '" ++ text ++ "': " ++ fault.message
  | .cookies text =>
    "Invalid cookies flag '" ++ text ++ "': provided string was not \x60true\x60 or \x60false\x60"

/-- What can go wrong between a caller and a provider. -/
inductive Failure where
  | serverFault (fault : Fault)
  | transport (reason : String)
  | httpStatus (status : Nat) (body : String)
  | malformed (defect : Defect)
  | coercion (field : String) (type : SchemaType) (fault : CoercionFault)
  | cursorPosition (position : Int) (rows : Nat)
  | badUsage (misuse : Misuse)
  | handleClosed
  | badSetting (fault : SettingFault)
  | io (reason : String)
  | internal (reason : String)
  deriving DecidableEq, Repr

/-- A failure in words. -/
def Failure.message : Failure → String
  | .serverFault fault => "Server Error: " ++ fault.message
  | .transport reason => "Transport error: " ++ reason
  | .httpStatus status body => "HTTP status " ++ decimalText status ++ ": " ++ body
  | .malformed defect =>
    match defect.message? with
    | some cause => "error creating result: " ++ cause
    | none => "error creating result"
  | .coercion field type _ =>
    "Error while casting field '" ++ field ++ "' to the native type for its XSD type " ++ type.name
  | .cursorPosition position rows =>
    "Invalid cursor position " ++ decimalText position ++ " for a result of " ++ decimalText rows
      ++ " rows"
  | .badUsage misuse => "Bad usage error: " ++ misuse.message
  | .handleClosed => "Transport handle is closed"
  | .badSetting fault => "Bad config error: " ++ fault.message
  | .io reason => "IO error: " ++ reason
  | .internal reason => "Library bug: " ++ reason

end OlapClient
