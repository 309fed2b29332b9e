import OlapClient.Number.Bounded

/-!
# Integer numerals

`digit?` values a digit of radix ten or sixteen.  `readBounded` reads a numeral of a
fixed-width format: one optional sign and digits, refused at the first character that is no
digit or at the first digit that leaves the range, whichever comes first.  `readWhole` reads
a numeral of any size, in which underscores may stand between and after the digits.
`decimalText` writes an integer.
-/

namespace OlapClient.Number

/-- Why a numeral of a fixed-width format is refused. -/
inductive NumeralFault where
  | empty
  | invalidDigit
  | tooLarge
  | tooSmall
  deriving DecidableEq, Repr

/-- The reason in words. -/
def NumeralFault.message : NumeralFault → String
  | .empty => "cannot parse integer from empty string"
  | .invalidDigit => "invalid digit found in string"
  | .tooLarge => "number too large to fit in target type"
  | .tooSmall => "number too small to fit in target type"

/-- The value of a digit in a radix of at most sixteen; letters of either case count from
ten. -/
def digit? (radix : Nat) (c : Char) : Option Nat :=
  let d :=
    if '0' ≤ c ∧ c ≤ '9' then c.toNat - '0'.toNat
    else if 'a' ≤ c ∧ c ≤ 'f' then c.toNat - 'a'.toNat + 10
    else if 'A' ≤ c ∧ c ≤ 'F' then c.toNat - 'A'.toNat + 10
    else radix
  if d < radix then some d else none

/-- The decimal digits of a number, most significant first. -/
def decimalDigits (n : Nat) : List Char :=
  Nat.toDigits 10 n

/-- An integer in decimal, with a minus sign when it is negative. -/
def decimalText (n : Int) : String :=
  String.ofList (if n < 0 then '-' :: decimalDigits n.natAbs else decimalDigits n.natAbs)

/-- Reads digits after `acc`, adding each of them when `negative` is false and subtracting
it otherwise. -/
def readDigits (radix : Nat) (k : IntKind) (negative : Bool) (acc : Bounded k) :
    List Char → Except NumeralFault (Bounded k)
  | [] => .ok acc
  | c :: rest =>
    match digit? radix c with
    | none => .error .invalidDigit
    | some d =>
      let next := acc.val * radix + if negative then -(d : Int) else d
      match Bounded.ofInt? k next with
      | some next => readDigits radix k negative next rest
      | none => .error (if negative then .tooSmall else .tooLarge)

/-- Zero, which every format has. -/
def Bounded.zero (k : IntKind) : Bounded k where
  val := 0
  holds := by
    have positive (n : Nat) : (0 : Int) < 2 ^ n := Int.pow_pos (by decide)
    have := positive (k.bits - 1)
    have := positive k.bits
    unfold IntKind.Holds IntKind.lo IntKind.hi
    split <;> omega

/-- Reads a numeral of the format `k`: an optional plus sign, or a minus sign where the
format is signed, then one or more digits. -/
def readBounded (radix : Nat) (k : IntKind) (cs : List Char) : Except NumeralFault (Bounded k) :=
  match cs with
  | [] => .error .empty
  | ['+'] | ['-'] => .error .invalidDigit
  | '+' :: rest => readDigits radix k false (.zero k) rest
  | '-' :: rest =>
    if k.signed then readDigits radix k true (.zero k) rest else .error .invalidDigit
  | cs => readDigits radix k false (.zero k) cs

/-- The value of decimal digits among which underscores are passed over. -/
def readSpacedDigits (acc : Nat) : List Char → Option Nat
  | [] => some acc
  | '_' :: rest => readSpacedDigits acc rest
  | c :: rest => (digit? 10 c).bind fun d => readSpacedDigits (acc * 10 + d) rest

/-- Reads an unsigned numeral of any size: an optional plus sign, then digits and
underscores, the first of which is no underscore. -/
def readSpacedNat (cs : List Char) : Option Nat :=
  let cs := match cs with
    | '+' :: '+' :: rest => '+' :: '+' :: rest
    | '+' :: rest => rest
    | cs => cs
  match cs with
  | [] => none
  | '_' :: _ => none
  | cs => readSpacedDigits 0 cs

/-- Reads an integer of any size: an optional sign, then digits and underscores, the first of
which is no underscore. -/
def readWhole (cs : List Char) : Option Int :=
  match cs with
  | '-' :: '+' :: _ => none
  | '-' :: rest => (readSpacedNat rest).map fun n => -(n : Int)
  | cs => (readSpacedNat cs).map fun n => (n : Int)

end OlapClient.Number
