import OlapClient.Number.Decimal

/-!
# Decimal numbers of a fixed size

A `FixedDecimal` is a decimal of at most 28 fraction digits whose digits, read without the
point, make an integer of at most 96 bits.  `FixedDecimal.ofInt?` admits integers by way of the
signed 128-bit integers, and `FixedDecimal.ofDecimal?` admits decimals by reading their plain
form.  Neither rounds: a number without the size of a fixed decimal is refused.
-/

namespace OlapClient.Number

/-- A decimal number of bounded size: `unscaled / 10 ^ scale`. -/
structure FixedDecimal where
  unscaled : Int
  scale : Nat
  unscaled_lt : unscaled.natAbs < 2 ^ 96
  scale_le : scale ≤ 28
  deriving DecidableEq, Repr

namespace FixedDecimal

/-- An integer over a power of ten, if it has the size of a fixed decimal. -/
def ofParts? (unscaled : Int) (scale : Nat) : Option FixedDecimal :=
  if h : unscaled.natAbs < 2 ^ 96 ∧ scale ≤ 28 then some ⟨unscaled, scale, h.1, h.2⟩ else none

/-- An integer as a fixed decimal, if it has the size of one. -/
def ofInt? (n : Int) : Option FixedDecimal :=
  (Bounded.ofInt? .int128 n).bind fun n => ofParts? n.val 0

/-- Zero without fraction digits. -/
def zero : FixedDecimal :=
  ⟨0, 0, by decide, by decide⟩

/-- Reads digits after `acc`, adding each of them when `negative` is false and subtracting it
otherwise.  At most one point stands among them, and those behind it are fraction digits.  The
first digit that there is no room for is refused. -/
def readDigits (negative pointed : Bool) (acc : FixedDecimal) :
    List Char → Option FixedDecimal
  | [] => some acc
  | '.' :: rest => if pointed then none else readDigits negative true acc rest
  | c :: rest => do
    let d ← digit? 10 c
    let next ← ofParts? (acc.unscaled * 10 + if negative then -(d : Int) else d)
      (if pointed then acc.scale + 1 else acc.scale)
    readDigits negative pointed next rest

/-- Reads a decimal without an exponent: an optional sign, then digits with at most one point, at
least one digit in all. -/
def read? (cs : List Char) : Option FixedDecimal :=
  if cs.any fun c => (digit? 10 c).isSome then
    match cs with
    | '+' :: rest => readDigits false false zero rest
    | '-' :: rest => readDigits true false zero rest
    | cs => readDigits false false zero cs
  else none

/-- A decimal as a fixed decimal, if its plain form has the size of one. -/
def ofDecimal? (d : Decimal) : Option FixedDecimal :=
  read? d.plain.toList

/-- A fixed decimal as a decimal of any size. -/
def toDecimal (d : FixedDecimal) : Decimal :=
  ⟨d.unscaled, d.scale⟩

/-- The digits of a fixed decimal, all its fraction digits included. -/
def text (d : FixedDecimal) : String :=
  d.toDecimal.plain

end FixedDecimal

end OlapClient.Number
