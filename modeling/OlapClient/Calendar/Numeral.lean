import OlapClient.Calendar.Date
import OlapClient.Number.Binary.Reading
import OlapClient.Text.Blank

/-!
# Written dates and times

A written moment is a date `year-month-day`, the letter `T` of either case and a time
`hour:minute:second.fraction`, of which the fraction, or the seconds and the fraction, may be
left out.  Numbers need not be padded, and blanks may stand before each of them.
`Moment.read` reads that form leniently and `Moment.text` writes it fully padded.
-/

namespace OlapClient.Calendar

open OlapClient.Number
open OlapClient.Text

/-- A reader of the front of a text: what was read, and the rest. -/
abbrev Reader (α : Type) : Type := List Char → Option (α × List Char)

/-- Reads a number of one to `width` digits. -/
def readDigitsUpTo (width : Nat) : Reader Nat := fun cs =>
  let digits := (cs.take width).takeWhile isDigit
  if digits.isEmpty then none else some (digitsValue digits, cs.drop digits.length)

/-- Reads a number of one or two digits after blanks. -/
def readField : Reader Nat := fun cs =>
  readDigitsUpTo 2 (trimStart cs)

/-- Reads a year after blanks: up to four digits, or any number of digits after a sign. -/
def readYear : Reader Int := fun cs =>
  match trimStart cs with
  | '-' :: cs => (readDigitsUpTo cs.length cs).map fun (n, rest) => (-(n : Int), rest)
  | '+' :: cs => (readDigitsUpTo cs.length cs).map fun (n, rest) => ((n : Int), rest)
  | cs => (readDigitsUpTo 4 cs).map fun (n, rest) => ((n : Int), rest)

/-- Reads one given character. -/
def readMark (mark : Char) : Reader Unit := fun cs =>
  match cs with
  | c :: rest => if c = mark then some ((), rest) else none
  | [] => none

/-- Reads a fraction of a second in nanoseconds, zero where no point follows.  Digits after the
ninth are passed over. -/
def readFraction : Reader Nat := fun cs =>
  match cs with
  | '.' :: rest =>
    let digits := (rest.takeWhile isDigit).take 9
    if digits.isEmpty then none
    else some (digitsValue digits * 10 ^ (9 - digits.length), rest.dropWhile isDigit)
  | cs => some (0, cs)

/-- Reads a date that is the whole text. -/
def Date.read (cs : List Char) : Option Date := do
  let (year, cs) ← readYear cs
  let ((), cs) ← readMark '-' cs
  let (month, cs) ← readField cs
  let ((), cs) ← readMark '-' cs
  let (day, cs) ← readField cs
  if cs.isEmpty then Date.ofNumbers? year month day else none

/-- Reads hour, minute, second and fraction that are the whole text. -/
def TimeOfDay.readSeconds (cs : List Char) : Option TimeOfDay := do
  let (hour, cs) ← readField cs
  let ((), cs) ← readMark ':' cs
  let (minute, cs) ← readField cs
  let ((), cs) ← readMark ':' cs
  let (second, cs) ← readField cs
  let (nanosecond, cs) ← readFraction cs
  if cs.isEmpty then TimeOfDay.ofNumbers? hour minute second nanosecond else none

/-- Reads hour and minute that are the whole text. -/
def TimeOfDay.readMinutes (cs : List Char) : Option TimeOfDay := do
  let (hour, cs) ← readField cs
  let ((), cs) ← readMark ':' cs
  let (minute, cs) ← readField cs
  if cs.isEmpty then TimeOfDay.ofNumbers? hour minute 0 0 else none

/-- Reads a time of day that is the whole text. -/
def TimeOfDay.read (cs : List Char) : Option TimeOfDay :=
  (readSeconds cs).or (readMinutes cs)

/-- Why a written moment is refused. -/
inductive MomentFault where
  /-- No letter `T` parts a date from a time. -/
  | noSeparator
  /-- The date or the time is not well formed, or the calendar does not have it. -/
  | notInCalendar
  deriving DecidableEq, Repr

/-- A character that parts a date from a time. -/
def isSeparator (c : Char) : Bool :=
  c == 'T' || c == 't'

/-- Reads a moment from a text without blanks at its ends. -/
def Moment.read (cs : List Char) : Except MomentFault Moment :=
  match cs.dropWhile (!isSeparator ·) with
  | [] => .error .noSeparator
  | _ :: time =>
    match Date.read (cs.takeWhile (!isSeparator ·)), TimeOfDay.read time with
    | some date, some time => .ok ⟨date, time⟩
    | _, _ => .error .notInCalendar

/-- A number with zeros before it up to a width. -/
def padded (width n : Nat) : List Char :=
  let digits := decimalDigits n
  List.replicate (width - digits.length) '0' ++ digits

/-- A year of at least four digits, signed when it is negative or has five digits or more. -/
def yearText (year : Int) : List Char :=
  if year < 0 then '-' :: padded 4 year.natAbs
  else if 9999 < year then '+' :: padded 4 year.natAbs
  else padded 4 year.natAbs

/-- A fraction of a second in three, six or nine digits, whichever suffice; nothing for
none. -/
def fractionText (nanosecond : Nat) : List Char :=
  if nanosecond = 0 then []
  else if nanosecond % 1000000 = 0 then '.' :: padded 3 (nanosecond / 1000000)
  else if nanosecond % 1000 = 0 then '.' :: padded 6 (nanosecond / 1000)
  else '.' :: padded 9 nanosecond

/-- A day in the form `year-month-day`. -/
def Date.text (d : Date) : List Char :=
  yearText d.year ++ '-' :: padded 2 d.month ++ '-' :: padded 2 d.day

/-- A time of day in the form `hour:minute:second.fraction`. -/
def TimeOfDay.text (t : TimeOfDay) : List Char :=
  padded 2 t.hour ++ ':' :: padded 2 t.minute ++ ':' :: padded 2 t.second
    ++ fractionText t.nanosecond

/-- A moment as a date and a time with the letter `T` between them. -/
def Moment.text (m : Moment) : String :=
  String.ofList (m.date.text ++ 'T' :: m.time.text)

end OlapClient.Calendar
