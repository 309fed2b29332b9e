/-!
# Names

The characters of XML names as ranges of code points.  A name token is made of name characters;
a name without a colon begins with one that may begin a name.  No character that ends a name
within a tag is a name character.
-/

namespace OlapClient.Markup

/-- The code points that may begin a name, as closed intervals in ascending order. -/
def nameStartRanges : List (Nat × Nat) :=
  [(0x3A, 0x3A), (0x41, 0x5A), (0x5F, 0x5F), (0x61, 0x7A), (0xC0, 0xD6), (0xD8, 0xF6),
    (0xF8, 0x2FF), (0x370, 0x37D), (0x37F, 0x1FFF), (0x200C, 0x200D), (0x2070, 0x218F),
    (0x2C00, 0x2FEF), (0x3001, 0xD7FF), (0xF900, 0xFDCF), (0xFDF0, 0xFFFD),
    (0x10000, 0xEFFFF)]

/-- The code points that may stand in a name after its first character only. -/
def nameRestRanges : List (Nat × Nat) :=
  [(0x2D, 0x2E), (0x30, 0x39), (0xB7, 0xB7), (0x300, 0x36F), (0x203F, 0x2040)]

/-- The code point of a character lies in one of some intervals. -/
def isWithin (ranges : List (Nat × Nat)) (c : Char) : Bool :=
  ranges.any fun range => range.1 ≤ c.toNat && c.toNat ≤ range.2

/-- A character that may begin a name. -/
def isNameStart (c : Char) : Bool :=
  isWithin nameStartRanges c

/-- A character that may stand in a name. -/
def isNameChar (c : Char) : Bool :=
  isNameStart c || isWithin nameRestRanges c

/-- A text of name characters, at least one. -/
def isNameToken (cs : List Char) : Bool :=
  !cs.isEmpty && cs.all isNameChar

/-- A name without a colon. -/
def isNCName (cs : List Char) : Bool :=
  cs.head?.any isNameStart && cs.all isNameChar && !cs.contains ':'

theorem isNameToken_of_isNCName {cs : List Char} (h : isNCName cs) :
  isNameToken cs
  := by
  cases cs with
  | nil => simp [isNCName] at h
  | cons c cs =>
    simp only [isNCName, Bool.and_eq_true] at h
    simpa [isNameToken] using h.1.2

theorem colon_not_mem_of_isNCName {cs : List Char} (h : isNCName cs) :
  ':' ∉ cs
  := by
  simp only [isNCName, Bool.and_eq_true] at h
  simpa using h.2

theorem isNameChar_of_mem {cs : List Char} (h : isNameToken cs) {c : Char} (hc : c ∈ cs) :
  isNameChar c
  := by
  simp only [isNameToken, Bool.and_eq_true, List.all_eq_true] at h
  apply h.2 c hc

theorem ne_nil_of_isNameToken {cs : List Char} (h : isNameToken cs) :
  cs ≠ []
  := by
  rintro rfl
  simp [isNameToken] at h

/-- A character that is no name character does not stand in a name. -/
theorem ne_of_isNameChar {c d : Char} (hc : isNameChar c) (hd : isNameChar d = false) :
  c ≠ d
  := by
  rintro rfl
  rw [hc] at hd
  cases hd

end OlapClient.Markup
