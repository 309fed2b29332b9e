import OlapClient.Number.Power

/-!
# Binary floating point numbers

A `BinaryFormat` fixes the number of significant bits and the width of the exponent field,
and a `Binary f` is a datum of the format: not a number, an infinity, or a signed
significand times a power of two.  `Binary.round` takes an exact non-negative number to the
nearest datum, a number halfway between two of them to the one with the even significand,
and a number beyond the greatest finite datum to infinity.  `Binary.bits` is the
interchange encoding.
-/

namespace OlapClient.Number

/-- A binary floating point format: the significand has `precision` bits and the exponent
field `exponentBits`. -/
structure BinaryFormat where
  precision : Nat
  exponentBits : Nat
  deriving DecidableEq, Repr

namespace BinaryFormat

/-- The 32-bit format. -/
def single : BinaryFormat := ⟨24, 8⟩

/-- The 64-bit format. -/
def double : BinaryFormat := ⟨53, 11⟩

/-- The exponent of the greatest finite datum when its significand is read as `1.…`. -/
def bias (f : BinaryFormat) : Int :=
  2 ^ (f.exponentBits - 1) - 1

/-- The least power of two that multiplies an integer significand. -/
def minExponent (f : BinaryFormat) : Int :=
  2 - f.bias - f.precision

/-- The greatest power of two that multiplies an integer significand. -/
def maxExponent (f : BinaryFormat) : Int :=
  f.bias + 1 - f.precision

end BinaryFormat

/-- A datum of the format `f`.  A finite datum is `significand * 2 ^ exponent`; its
significand has at most `f.precision` bits, and fewer only with the least exponent. -/
inductive Binary (f : BinaryFormat) where
  | nan
  | infinite (negative : Bool)
  | finite (negative : Bool) (significand : Nat) (exponent : Int)
  deriving DecidableEq, Repr

/-- The integer nearest to a non-negative number, the even one of two that are equally
near. -/
def roundHalfEven (x : Rat) : Nat :=
  let below := x.floor.toNat
  let excess := x - below
  if 1 / 2 < excess ∨ (excess = 1 / 2 ∧ below % 2 = 1) then below + 1 else below

namespace Binary

variable {f : BinaryFormat}

/-- The exponent at which a positive number has a significand of `f.precision` bits, or the
least exponent if that is greater. -/
def exponentFor (f : BinaryFormat) (x : Rat) : Int :=
  let guess := (x.num.natAbs.log2 : Int) - x.den.log2 - f.precision
  let exponent := if 2 ^ f.precision ≤ x / 2 ^ guess then guess + 1 else guess
  max f.minExponent exponent

/-- The datum nearest to a non-negative number, with the given sign. -/
def round (f : BinaryFormat) (negative : Bool) (x : Rat) : Binary f :=
  if x = 0 then .finite negative 0 f.minExponent
  else
    let exponent := exponentFor f x
    let significand := roundHalfEven (x / 2 ^ exponent)
    let (significand, exponent) :=
      if significand = 2 ^ f.precision then (2 ^ (f.precision - 1), exponent + 1)
      else (significand, exponent)
    if f.maxExponent < exponent then .infinite negative
    else .finite negative significand exponent

/-- The datum nearest to an exact number. -/
def ofRat (f : BinaryFormat) (x : Rat) : Binary f :=
  round f (decide (x < 0)) (if x < 0 then -x else x)

/-- The number a finite datum denotes, without its sign. -/
def magnitude (significand : Nat) (exponent : Int) : Rat :=
  significand * 2 ^ exponent

/-- A datum of one format in another; the nearest one if the other is narrower. -/
def convert (g : BinaryFormat) : Binary f → Binary g
  | .nan => .nan
  | .infinite negative => .infinite negative
  | .finite negative significand exponent => round g negative (magnitude significand exponent)

/-- The interchange encoding: the sign, the exponent field and the significand without its
leading bit.  A datum that is no number has the leading fraction bit set. -/
def bits : Binary f → Nat
  | .nan => (2 ^ f.exponentBits - 1) * 2 ^ (f.precision - 1) + 2 ^ (f.precision - 2)
  | .infinite negative => sign negative + (2 ^ f.exponentBits - 1) * 2 ^ (f.precision - 1)
  | .finite negative significand exponent =>
    sign negative + (exponent - f.minExponent).toNat * 2 ^ (f.precision - 1) + significand
where
  /-- The sign bit in its place. -/
  sign (negative : Bool) : Nat :=
    if negative then 2 ^ (f.exponentBits + f.precision - 1) else 0

end Binary

end OlapClient.Number
