import OlapClient.Number.Digits
import OlapClient.Text.Cut

/-!
# References

A reference stands for one character: `&lt;` for a markup character, `&#65;` or `&#x41;` for
the character of a code point.  `escape` writes the characters of a given class as
references.  `characterOf` resolves the name of a reference in a text, where a code point may
carry a plus sign and the hexadecimal mark may be a capital.  `unescape` resolves the
references of an attribute value, where neither is so and the code point zero is refused.
-/

namespace OlapClient.Markup

open OlapClient.Number
open OlapClient.Text

/-- The characters that have a reference by name. -/
def named : List (String × Char) :=
  [("amp", '&'), ("lt", '<'), ("gt", '>'), ("quot", '"'), ("apos", '\'')]

/-- The character of a reference by name. -/
def namedCharacter? (name : List Char) : Option Char :=
  named.lookup (String.ofList name)

/-- The reference by name for a character, where there is one. -/
def referenceFor (c : Char) : List Char :=
  match c with
  | '&' => "&amp;".toList
  | '<' => "&lt;".toList
  | '>' => "&gt;".toList
  | '"' => "&quot;".toList
  | '\'' => "&apos;".toList
  | c => [c]

/-- The characters that are markup wherever they stand. -/
def isMarkup (c : Char) : Bool :=
  c == '&' || c == '<' || c == '>'

/-- The characters that are markup somewhere: those that are so everywhere, and the quotes. -/
def isMarkupOrQuote (c : Char) : Bool :=
  isMarkup c || c == '"' || c == '\''

/-- A text with the characters of a class written as references. -/
def escape (special : Char → Bool) (cs : List Char) : List Char :=
  cs.flatMap fun c => if special c then referenceFor c else [c]

/-- The character of a code point. -/
def character? (code : Nat) : Option Char :=
  if h : code.isValidChar then some (Char.ofNatAux code h) else none

/-- Why the name of a reference is not resolved. -/
inductive ReferenceFault where
  | unknownName
  | notACodePoint (fault : NumeralFault)
  | notACharacter
  deriving DecidableEq, Repr

/-- The radix and the digits of a code point.  The hexadecimal mark is one of `marks`. -/
def splitRadix (marks : List Char) : List Char → Nat × List Char
  | [] => (10, [])
  | c :: cs => if c ∈ marks then (16, cs) else (10, c :: cs)

/-- The character of a reference in a text. -/
def characterOf (name : List Char) : Except ReferenceFault Char :=
  match name with
  | '#' :: code =>
    let (radix, digits) := splitRadix ['x', 'X'] code
    match readBounded radix .nat32 digits with
    | .error fault => .error (.notACodePoint fault)
    | .ok n =>
      match character? n.val.toNat with
      | some c => .ok c
      | none => .error .notACharacter
  | name =>
    match namedCharacter? name with
    | some c => .ok c
    | none => .error .unknownName

/-- The character of a reference in an attribute value. -/
def attributeCharacter? (name : List Char) : Option Char :=
  match name with
  | '#' :: code =>
    let (radix, digits) := splitRadix ['x'] code
    if digits.head? = some '+' then none
    else
      match readBounded radix .nat32 digits with
      | .error _ => none
      | .ok n => if n.val = 0 then none else character? n.val.toNat
  | name => namedCharacter? name

/-- A character at which the name of a reference in an attribute value ends. -/
def endsReference (c : Char) : Bool :=
  c == ';' || c == '&'

/-- An attribute value with its references resolved. -/
def unescape (cs : List Char) : Option (List Char) :=
  match cs with
  | [] => some []
  | c :: rest =>
    if c = '&' then
      match _h : cut endsReference rest with
      | some (name, ';', rest) => do
        let c ← attributeCharacter? name
        let cs ← unescape rest
        return c :: cs
      | _ => none
    else (unescape rest).map (c :: ·)
termination_by cs.length
decreasing_by
  · have := length_cut _h
    simp only [List.length_cons]
    omega
  · simp

end OlapClient.Markup
