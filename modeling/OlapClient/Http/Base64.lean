import OlapClient.Number.Power
import OlapClient.Text.Utf8

/-!
# Base64

`base64` writes octets with the digits of base 64, four digits for three octets.  Where one or
two octets are left at the end, padding completes the last four digits.
-/

namespace OlapClient.Http

open OlapClient.Text

/-- The digits of base 64, by value. -/
def digits64 : List Char :=
  "ABCDEFGHIJKLMNOPQRSTUVWXYZabcdefghijklmnopqrstuvwxyz0123456789+/".toList

/-- The digit of base 64 at a place of a number, counted from the right. -/
def digit64 (n place : Nat) : Char :=
  digits64.getD (n / 64 ^ place % 64) '='

/-- Octets with the digits of base 64. -/
def base64 : Octets → List Char
  | a :: b :: c :: rest =>
    let n := (a.toNat * 256 + b.toNat) * 256 + c.toNat
    digit64 n 3 :: digit64 n 2 :: digit64 n 1 :: digit64 n 0 :: base64 rest
  | [a, b] =>
    let n := (a.toNat * 256 + b.toNat) * 4
    [digit64 n 2, digit64 n 1, digit64 n 0, '=']
  | [a] =>
    let n := a.toNat * 16
    [digit64 n 1, digit64 n 0, '=', '=']
  | [] => []

end OlapClient.Http
