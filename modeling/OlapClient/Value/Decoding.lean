import OlapClient.Failure

/-!
# Values as native data

`Value.decode` turns a value into the type a caller asks for.  Conversions to integers and
decimals are exact or refused: a number outside the target is out of range, and a value of
another kind is the wrong kind.  Only the conversion of a number to floating point rounds, to
the nearest datum.
-/

namespace OlapClient

open OlapClient.Number

namespace Value

/-- The integer a value holds, if it is of a variant of integers of a fixed width. -/
def smallInteger? : Value → Option Int
  | byte n => some n.val
  | short n => some n.val
  | int n => some n.val
  | long n => some n.val
  | _ => none

/-- The integer a value holds, if it is of a variant of integers. -/
def integer? : Value → Option Int
  | integer n => some n
  | v => v.smallInteger?

/-- The number a value holds, if it is of a variant of exact numbers. -/
def exactNumber? : Value → Option Decimal
  | integer n => some (.ofInt n)
  | decimal d => some d
  | v => v.smallInteger?.map .ofInt

/-- The refusal of a value of the wrong kind. -/
def wrongKind {α : Type} (v : Value) (t : Target) : Except Failure α :=
  .error (.badUsage (.wrongKind v.kindName t))

/-- What a number was accepted as, or the refusal of a number out of range. -/
def acceptNumber {α : Type} (t : Target) (number : Decimal) (accepted : Option α) :
    Except Failure α :=
  match accepted with
  | some a => .ok a
  | none => .error (.badUsage (.outOfRange number.brief t))

/-- A value as an exact number: an integer of any variant accepted by `ofInt?`, or a decimal
accepted by `ofDecimal?`. -/
def decodeNumber {α : Type} (v : Value) (t : Target) (ofInt? : Int → Option α)
    (ofDecimal? : Decimal → Option α) : Except Failure α :=
  match v with
  | decimal d => acceptNumber t d (ofDecimal? d)
  | v => match v.integer? with
    | some n => acceptNumber t (.ofInt n) (ofInt? n)
    | none => v.wrongKind t

/-- A value as a floating point datum of 64 bits.  Integers of 64 bits are not converted. -/
def decodeDouble (v : Value) : Except Failure (Binary .double) :=
  match v with
  | double x => .ok x
  | float x => .ok (x.convert .double)
  | long _ => v.wrongKind .double
  | v => v.decodeNumber .double (fun n => some (Binary.ofRat .double n))
      fun d => some (Binary.ofRat .double d.toRat)

/-- A value as text: its schema text, where it is not absent. -/
def decodeText (v : Value) : Except Failure String :=
  match v.text? with
  | some s => .ok s
  | none => v.wrongKind .text

/-- A value as the type of a target. -/
def decode (v : Value) : (t : Target) → Except Failure t.Native
  | .boolean => match v with
    | boolean b => .ok b
    | v => v.wrongKind .boolean
  | .bounded k => v.decodeNumber (.bounded k) (Bounded.ofInt? k.kind)
      fun d => d.toInt?.bind (Bounded.ofInt? k.kind)
  | .whole => v.decodeNumber .whole some Decimal.toInt?
  | .single => match v with
    | float x => .ok x
    | v => v.wrongKind .single
  | .double => v.decodeDouble
  | .decimal => v.decodeNumber .decimal (some ∘ Decimal.ofInt) some
  | .fixedDecimal => v.decodeNumber .fixedDecimal FixedDecimal.ofInt? FixedDecimal.ofDecimal?
  | .moment => match v with
    | dateTime m => .ok m
    | v => v.wrongKind .moment
  | .text => v.decodeText
  | .value => .ok v

/-- A value as what `decode` makes of it, with nothing for an absent value. -/
def optional {α : Type} (decode : Value → Except Failure α) (v : Value) :
    Except Failure (Option α) :=
  match v with
  | null => .ok none
  | v => some <$> decode v

/-- A value as the type of a target, with nothing for an absent value. -/
def decodeOption (v : Value) (t : Target) : Except Failure (Option t.Native) :=
  v.optional (·.decode t)

end Value

end OlapClient
