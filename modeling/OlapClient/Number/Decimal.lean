import OlapClient.Number.Digits

/-!
# Decimal numbers of any size

A `Decimal` is an integer `unscaled` over a power of ten, so that `0.1` and `0.10` are two
decimals of one value.  `read?` reads a decimal literal without rounding, `plain` writes a
decimal without an exponent and with all its fraction digits, and `brief` writes it for an
error text, with an exponent when the plain form would be mostly zeros.
-/

namespace OlapClient.Number

/-- The decimal number `unscaled / 10 ^ scale`. -/
structure Decimal where
  unscaled : Int
  scale : Int
  deriving DecidableEq, Repr

namespace Decimal

/-- The number a decimal denotes. -/
def toRat (d : Decimal) : Rat :=
  d.unscaled * 10 ^ (-d.scale)

/-- Two decimals denote the same number. -/
def SameValue (a b : Decimal) : Prop :=
  a.toRat = b.toRat

instance (a b : Decimal) : Decidable (a.SameValue b) :=
  inferInstanceAs (Decidable (_ = _))

/-- An integer as a decimal. -/
def ofInt (n : Int) : Decimal :=
  ⟨n, 0⟩

/-- A decimal with another scale.  Digits behind the new last place are cut off. -/
def withScale (d : Decimal) (scale : Int) : Decimal :=
  if d.scale ≤ scale then ⟨d.unscaled * 10 ^ (scale - d.scale).toNat, scale⟩
  else ⟨d.unscaled.tdiv (10 ^ (d.scale - scale).toNat), scale⟩

/-- The integer a decimal denotes, if it denotes one: the same number is left when the fraction
digits are cut off. -/
def toInt? (d : Decimal) : Option Int :=
  let whole := d.withScale 0
  if whole.SameValue d then some whole.unscaled else none

/-- The parts of a decimal literal: its mantissa, and what follows the first `e` or `E`. -/
def splitExponent (cs : List Char) : List Char × Option (List Char) :=
  let isMark (c : Char) : Bool := c == 'e' || c == 'E'
  match cs.dropWhile (!isMark ·) with
  | [] => (cs, none)
  | _ :: exponent => (cs.takeWhile (!isMark ·), some exponent)

/-- The exponent of a literal, zero where none is written. -/
def readExponent : Option (List Char) → Option Int
  | none => some 0
  | some cs =>
    match readBounded 10 .int128 cs with
    | .ok e => some e.val
    | .error _ => none

/-- A mantissa as a numeral without a point, and its number of fraction digits.  A point at
the end counts no fraction digits, nor does an underscore. -/
def splitPoint (cs : List Char) : List Char × Nat :=
  match cs.dropWhile (· != '.') with
  | [] => (cs, 0)
  | _ :: fraction => (cs.takeWhile (· != '.') ++ fraction, (fraction.filter (· != '_')).length)

/-- Reads a decimal literal.  A literal whose scale leaves the signed 64-bit integers is
refused. -/
def read? (cs : List Char) : Option Decimal := do
  let (mantissa, exponent) := splitExponent cs
  let exponent ← readExponent exponent
  if mantissa.isEmpty then none
  let (numeral, places) := splitPoint mantissa
  let scale ← Bounded.ofInt? .int64 (places - exponent)
  let unscaled ← readWhole numeral
  return ⟨unscaled, scale.val⟩

/-- Digits with a point before the last `places` of them and at least one digit before the
point; without a point when `places` is zero. -/
def withPoint (digits : List Char) (places : Nat) : List Char :=
  if places = 0 then digits
  else
    let digits := List.replicate (places + 1 - digits.length) '0' ++ digits
    digits.take (digits.length - places) ++ '.' :: digits.drop (digits.length - places)

/-- The plain form without its sign: a negative scale appends zeros. -/
def plainDigits (d : Decimal) : List Char :=
  let digits := decimalDigits d.unscaled.natAbs
  if d.scale ≤ 0 then digits ++ List.replicate (-d.scale).toNat '0'
  else withPoint digits d.scale.toNat

/-- Puts a minus sign before the text of a negative decimal. -/
def signed (d : Decimal) (cs : List Char) : List Char :=
  if d.unscaled < 0 then '-' :: cs else cs

/-- The plain form: no exponent, and as many fraction digits as the scale says. -/
def plain (d : Decimal) : String :=
  String.ofList (d.signed d.plainDigits)

/-- The most zeros that `brief` writes between the point and the first digit. -/
def leadingZeros : Int := 5

/-- The most zeros that `brief` writes after the last digit. -/
def trailingZeros : Int := 15

/-- The form for an error text.  A number with many zeros after its point is written with one
digit before the point and an exponent `E-n`, a number with many zeros at its end as its
digits and an exponent `e+n`, and any other number in plain form. -/
def brief (d : Decimal) : String :=
  let scale := if d.unscaled = 0 then 0 else d.scale
  let digits := decimalDigits d.unscaled.natAbs
  let text :=
    if leadingZeros < scale - digits.length then
      let exponent := digits.length - 1 - scale
      withPoint digits (digits.length - 1) ++ 'E' :: (decimalText exponent).toList
    else if trailingZeros < -scale then
      digits ++ 'e' :: '+' :: (decimalText (-scale)).toList
    else plainDigits ⟨d.unscaled, scale⟩
  String.ofList (d.signed text)

end Decimal

end OlapClient.Number
