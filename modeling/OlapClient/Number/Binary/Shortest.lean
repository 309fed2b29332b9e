import OlapClient.Number.Binary
import OlapClient.Number.Decimal

/-!
# The shortest decimal of a floating point number

The numbers that round to a finite datum form an interval around it, ends included exactly
when the significand is even.  `Binary.shortest` is the decimal with the fewest significant
digits in that interval: on the grids of one digit, of two digits and so on it looks at the
two neighbours of the datum, takes the first grid with a neighbour in the interval and, of two
such neighbours, the nearer one, the greater when both are equally near.
-/

namespace OlapClient.Number

namespace Binary

variable {f : BinaryFormat}

/-- The numbers that round to one datum: those between two bounds, which belong to them when
`closed`. -/
structure Interval where
  lower : Rat
  upper : Rat
  closed : Bool

/-- A number lies in an interval. -/
def Interval.has (i : Interval) (x : Rat) : Bool :=
  if i.closed then i.lower ≤ x && x ≤ i.upper else i.lower < x && x < i.upper

/-- The interval of the numbers that round to a positive finite datum.  Below a power of two
the data are twice as dense as above it. -/
def roundingInterval (f : BinaryFormat) (significand : Nat) (exponent : Int) : Interval :=
  let x := magnitude significand exponent
  let half : Rat := 2 ^ (exponent - 1)
  let dense := significand = 2 ^ (f.precision - 1) ∧ f.minExponent < exponent
  ⟨if dense then x - half / 2 else x - half, x + half, significand % 2 = 0⟩

/-- The exponent of the leading decimal digit of a positive number. -/
def leadingExponent (x : Rat) : Int :=
  let guess : Int := (decimalDigits x.num.natAbs).length - (decimalDigits x.den).length
  if (10 : Rat) ^ guess ≤ x then guess else guess - 1

/-- The multiple of `10 ^ exponent` nearest to `x` among the two around `x` that lie in the
interval. -/
def onGrid (i : Interval) (x : Rat) (exponent : Int) : Option Nat :=
  let unit : Rat := 10 ^ exponent
  let below := (x / unit).floor.toNat
  let low : Rat := below * unit
  let high : Rat := (below + 1) * unit
  match i.has low, i.has high with
  | true, true => some (if x - low < high - x then below else below + 1)
  | true, false => some below
  | false, true => some (below + 1)
  | false, false => none

/-- The first grid with a hit, for at most `fuel` grids from `10 ^ exponent` downwards. -/
def firstHit (i : Interval) (x : Rat) (exponent : Int) : (fuel : Nat) → Decimal
  | 0 => ⟨0, 0⟩
  | fuel + 1 =>
    match onGrid i x exponent with
    | some n => ⟨n, -exponent⟩
    | none => firstHit i x (exponent - 1) fuel

/-- The decimal without zeros at the end of its unscaled integer. -/
def stripZeros (d : Decimal) : (fuel : Nat) → Decimal
  | 0 => d
  | fuel + 1 =>
    if d.unscaled ≠ 0 ∧ d.unscaled % 10 = 0 then stripZeros ⟨d.unscaled / 10, d.scale - 1⟩ fuel
    else d

/-- The shortest decimal that rounds to a finite datum, without its sign.  A significand of
`precision` bits never needs more than `precision` digits. -/
def shortest (f : BinaryFormat) (significand : Nat) (exponent : Int) : Decimal :=
  if significand = 0 then ⟨0, 0⟩
  else
    let x := magnitude significand exponent
    let hit := firstHit (roundingInterval f significand exponent) x (leadingExponent x) f.precision
    stripZeros hit f.precision

/-- The texts of the data that are no finite numbers. -/
structure SpecialTexts where
  nan : String
  infinity : String
  minusInfinity : String

/-- A datum as text: the shortest decimal in plain form, with a minus sign where the sign is
negative, zero included. -/
def text (special : SpecialTexts) : Binary f → String
  | .nan => special.nan
  | .infinite negative => if negative then special.minusInfinity else special.infinity
  | .finite negative significand exponent =>
    let digits := (shortest f significand exponent).plainDigits
    String.ofList (if negative then '-' :: digits else digits)

end Binary

end OlapClient.Number
