import OlapClient.Number.Digits
import OlapClient.Text.Blank

/-!
# Sets of code points

A property of characters is a set of code points, kept as closed intervals in ascending order.
A table of such intervals is written as a text of hexadecimal numbers: `41-5A` is an interval
and `5F` a single code point.
-/

namespace OlapClient.Url.Domain

open OlapClient.Number
open OlapClient.Text

/-- The words of a text, which blank characters separate. -/
def words : List Char → List (List Char)
  | [] => []
  | c :: rest =>
    if isBlank c then words rest
    else
      match rest with
      | [] => [[c]]
      | d :: _ =>
        if isBlank d then [c] :: words rest
        else
          match words rest with
          | word :: more => (c :: word) :: more
          | [] => [[c]]

/-- The number that hexadecimal digits write. -/
def hexNumber (cs : List Char) : Nat :=
  cs.foldl (fun n c => n * 16 + (digit? 16 c).getD 0) 0

/-- The numbers of a text. -/
def hexNumbers (text : String) : List Nat :=
  (words text.toList).map hexNumber

/-- A set of code points, as closed intervals. -/
abbrev Ranges : Type := List (Nat × Nat)

/-- The interval that a word writes. -/
def readRange (word : List Char) : Nat × Nat :=
  let low := word.takeWhile (· ≠ '-')
  let high := (word.dropWhile (· ≠ '-')).drop 1
  (hexNumber low, hexNumber (if high.isEmpty then low else high))

/-- The intervals that a text writes. -/
def readRanges (text : String) : Ranges :=
  (words text.toList).map readRange

/-- A character lies in one of the intervals. -/
def Ranges.has (ranges : Ranges) (c : Char) : Bool :=
  ranges.any fun (low, high) => low ≤ c.toNat && c.toNat ≤ high

end OlapClient.Url.Domain
