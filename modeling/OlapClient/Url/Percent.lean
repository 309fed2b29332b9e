import OlapClient.Number.Digits
import OlapClient.Text.Cut
import OlapClient.Text.Utf8

/-!
# Percent encoding and form encoding

Percent encoding writes the octets of the characters of a class as `%XX`.  Form encoding writes
pairs of names and values as `name=value`, joined by `&`, with `+` for a space and percent
encoding for all but a few characters.  Decoding never fails: a percent sign that two
hexadecimal digits do not follow stands for itself, and octets that are no text become U+FFFD.
-/

namespace OlapClient.Url

open OlapClient.Number
open OlapClient.Text

/-- A hexadecimal digit, with capital letters. -/
def hexDigit (n : Nat) : Char :=
  if n < 10 then Char.ofNat ('0'.toNat + n) else Char.ofNat ('A'.toNat + (n - 10))

/-- An octet as a percent sign and two hexadecimal digits. -/
def percentOctet (b : UInt8) : List Char :=
  ['%', hexDigit (b.toNat / 16), hexDigit (b.toNat % 16)]

/-- A text with the octets of the characters of a class percent encoded. -/
def percentEncode (special : Char → Bool) (cs : List Char) : List Char :=
  cs.flatMap fun c => if special c then (String.utf8EncodeChar c).flatMap percentOctet else [c]

/-- The value of an octet as a hexadecimal digit. -/
def hexValue? (b : UInt8) : Option Nat :=
  digit? 16 (Char.ofNat b.toNat)

/-- Octets with percent encoded octets decoded. -/
def percentDecode : Octets → Octets
  | a :: b :: c :: rest =>
    match a == 0x25, hexValue? b, hexValue? c with
    | true, some high, some low => UInt8.ofNat (high * 16 + low) :: percentDecode rest
    | _, _, _ => a :: percentDecode (b :: c :: rest)
  | bytes => bytes

/-! ### Classes of characters -/

/-- Controls and the characters beyond ASCII. -/
def isControl (c : Char) : Bool :=
  c.toNat < 0x20 || 0x7F ≤ c.toNat

/-- The characters that are encoded in a fragment. -/
def specialInFragment (c : Char) : Bool :=
  isControl c || " \"<>\x60".toList.contains c

/-- The characters that are encoded in a path. -/
def specialInPath (c : Char) : Bool :=
  specialInFragment c || "#?\x7b\x7d".toList.contains c

/-- The characters that are encoded in a user name or a password. -/
def specialInUserinfo (c : Char) : Bool :=
  specialInPath c || "/:;=@[\\]^|".toList.contains c

/-- The characters that are encoded in a query. -/
def specialInQuery (c : Char) : Bool :=
  isControl c || " \"#<>".toList.contains c

/-- The characters that form encoding keeps. -/
def isFormSafe (c : Char) : Bool :=
  c.isAlphanum || "*-._".toList.contains c

/-! ### Forms -/

/-- A name or a value, form encoded. -/
def formEncode (cs : List Char) : List Char :=
  cs.flatMap fun c => if c == ' ' then ['+'] else percentEncode (!isFormSafe ·) [c]

/-- A form encoded name or value, decoded. -/
def formDecode (cs : List Char) : List Char :=
  decodeLossy (percentDecode (encode (cs.map fun c => if c == '+' then ' ' else c)))

/-- The parts of a text between separators. -/
def splitBy (separator : Char) : List Char → List (List Char)
  | [] => [[]]
  | c :: rest =>
    if c = separator then [] :: splitBy separator rest
    else
      match splitBy separator rest with
      | part :: parts => (c :: part) :: parts
      | [] => [[c]]

/-- A pair of a form: what stands before and after the first equals sign, decoded. -/
def readPair (cs : List Char) : List Char × List Char :=
  match cut (· == '=') cs with
  | some (name, _, value) => (formDecode name, formDecode value)
  | none => (formDecode cs, [])

/-- The pairs of a form; empty parts are no pairs. -/
def readForm (cs : List Char) : List (List Char × List Char) :=
  ((splitBy '&' cs).filter (!·.isEmpty)).map readPair

/-- A pair of a form as text. -/
def pairText (pair : List Char × List Char) : List Char :=
  formEncode pair.1 ++ '=' :: formEncode pair.2

/-- Parts joined by a separator. -/
def joinBy (separator : Char) : List (List Char) → List Char
  | [] => []
  | [part] => part
  | part :: parts => part ++ separator :: joinBy separator parts

/-- The pairs of a form as text. -/
def formText (pairs : List (List Char × List Char)) : List Char :=
  joinBy '&' (pairs.map pairText)

end OlapClient.Url
