import OlapClient.Number.Binary
import OlapClient.Number.Digits

/-!
# Floating point numerals

A floating point numeral is an optional sign followed by `inf`, `infinity` or `nan` in any
letter case, or by decimal digits with an optional point and an optional exponent.  At least
one digit stands before or after the point.  `Binary.read` takes a numeral to the datum
nearest to the number it denotes.
-/

namespace OlapClient.Number

/-- Why a floating point numeral is refused. -/
inductive FloatFault where
  | empty
  | invalid
  deriving DecidableEq, Repr

/-- The reason in words. -/
def FloatFault.message : FloatFault → String
  | .empty => "cannot parse float from empty string"
  | .invalid => "invalid float literal"

/-- A character is a decimal digit. -/
def isDigit (c : Char) : Bool :=
  '0' ≤ c && c ≤ '9'

/-- The value of a list of decimal digits. -/
def digitsValue (digits : List Char) : Nat :=
  digits.foldl (fun n c => n * 10 + (c.toNat - '0'.toNat)) 0

/-- The digits a text begins with, and what follows them. -/
def spanDigits (cs : List Char) : List Char × List Char :=
  (cs.takeWhile isDigit, cs.dropWhile isDigit)

namespace Binary

variable {f : BinaryFormat}

/-- The exponent of a numeral, zero where none is written: `e` or `E`, an optional sign and
digits up to the end. -/
def readExponent : List Char → Option Int
  | [] => some 0
  | mark :: cs =>
    if mark = 'e' ∨ mark = 'E' then
      let (negative, cs) := match cs with
        | '-' :: cs => (true, cs)
        | '+' :: cs => (false, cs)
        | cs => (false, cs)
      if cs.isEmpty || !cs.all isDigit then none
      else some (if negative then -(digitsValue cs : Int) else digitsValue cs)
    else none

/-- The datum nearest to `digits * 10 ^ exponent`.  A number out of all proportion to the
format is settled by its order of magnitude alone. -/
def ofScientific (f : BinaryFormat) (negative : Bool) (digits : Nat) (exponent : Int) :
    Binary f :=
  let magnitude := (decimalDigits digits).length + exponent
  if digits = 0 then .finite negative 0 f.minExponent
  else if f.bias + 1 < 3 * (magnitude - 1) then .infinite negative
  else if 3 * magnitude < f.minExponent - 1 then .finite negative 0 f.minExponent
  else round f negative (digits * 10 ^ exponent)

/-- Reads an unsigned numeral made of digits. -/
def readDecimal (f : BinaryFormat) (negative : Bool) (cs : List Char) : Option (Binary f) := do
  let (whole, rest) := spanDigits cs
  let (fraction, rest) := match rest with
    | '.' :: rest => spanDigits rest
    | rest => ([], rest)
  if whole.isEmpty && fraction.isEmpty then none
  let exponent ← readExponent rest
  return ofScientific f negative (digitsValue (whole ++ fraction)) (exponent - fraction.length)

/-- Reads an unsigned numeral. -/
def readUnsigned (f : BinaryFormat) (negative : Bool) (cs : List Char) : Option (Binary f) :=
  let word := String.ofList (cs.map Char.toLower)
  if word = "nan" then some .nan
  else if word = "inf" ∨ word = "infinity" then some (.infinite negative)
  else readDecimal f negative cs

/-- Reads a floating point numeral. -/
def read (f : BinaryFormat) (cs : List Char) : Except FloatFault (Binary f) :=
  if cs.isEmpty then .error .empty
  else
    let datum := match cs with
      | '-' :: cs => readUnsigned f true cs
      | '+' :: cs => readUnsigned f false cs
      | cs => readUnsigned f false cs
    match datum with
    | some x => .ok x
    | none => .error .invalid

end Binary

end OlapClient.Number
