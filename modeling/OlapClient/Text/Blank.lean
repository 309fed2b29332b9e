/-!
# Blank characters

`isBlank` decides the Unicode property `White_Space`, and `trim` removes the blank
characters at both ends of a text.  Every blank character of the ASCII range is also blank
to the standard library's `Char.isWhitespace`, which knows four of the six.
-/

namespace OlapClient.Text

/-- The code points of the property `White_Space`, as closed intervals in ascending order. -/
def blankRanges : List (Nat × Nat) :=
  [(0x09, 0x0D), (0x20, 0x20), (0x85, 0x85), (0xA0, 0xA0), (0x1680, 0x1680),
    (0x2000, 0x200A), (0x2028, 0x2029), (0x202F, 0x202F), (0x205F, 0x205F), (0x3000, 0x3000)]

/-- Whether a character has the property `White_Space`. -/
def isBlank (c : Char) : Bool :=
  blankRanges.any fun range => range.1 ≤ c.toNat && c.toNat ≤ range.2

/-- A text without the blank characters it begins with. -/
def trimStart (cs : List Char) : List Char :=
  cs.dropWhile isBlank

/-- A text without the blank characters it ends with. -/
def trimEnd (cs : List Char) : List Char :=
  (cs.reverse.dropWhile isBlank).reverse

/-- A text without the blank characters at either end. -/
def trim (cs : List Char) : List Char :=
  trimEnd (trimStart cs)

/-- A string without the blank characters at either end. -/
def trimmed (s : String) : String :=
  String.ofList (trim s.toList)

@[simp]
theorem trim_nil :
  trim [] = []
  := rfl

/-- A text that neither begins nor ends with a blank character is its own trimmed form. -/
theorem trim_eq_self {cs : List Char}
    (first : ∀ c ∈ cs.head?, isBlank c = false)
    (last : ∀ c ∈ cs.reverse.head?, isBlank c = false) :
  trim cs = cs
  := by
  have keep {l : List Char} (h : ∀ c ∈ l.head?, isBlank c = false) :
      l.dropWhile isBlank = l := by
    cases l with
    | nil => rfl
    | cons c l => simp [h c (by simp)]
  simp [trim, trimStart, trimEnd, keep first, keep last]

end OlapClient.Text
