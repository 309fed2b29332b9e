import OlapClient.Markup.Escape

/-!
# References undone

Both readers of references undo `escape`: `characterOf` resolves the reference for a markup
character to that character, and `unescape` turns an escaped text into the text.  What `escape`
writes for a character that it leaves alone is that character, so an escaped text has none of
the characters of the class.
-/

namespace OlapClient.Markup

open OlapClient.Text

/-- The name of the reference for a markup character. -/
def referenceName (c : Char) : List Char :=
  match c with
  | '&' => "amp".toList
  | '<' => "lt".toList
  | '>' => "gt".toList
  | '"' => "quot".toList
  | _ => "apos".toList

theorem eq_of_isMarkupOrQuote {c : Char} (h : isMarkupOrQuote c) :
  c = '&' ∨ c = '<' ∨ c = '>' ∨ c = '"' ∨ c = '\''
  := by
  simpa [isMarkupOrQuote, isMarkup, or_assoc] using h

/-- The reference for a markup character, by its name. -/
theorem referenceFor_eq {c : Char} (h : isMarkupOrQuote c) :
  referenceFor c = '&' :: (referenceName c ++ [';'])
  := by
  rcases eq_of_isMarkupOrQuote h with rfl | rfl | rfl | rfl | rfl <;> rfl

theorem characterOf_referenceName {c : Char} (h : isMarkupOrQuote c) :
  characterOf (referenceName c) = .ok c
  := by
  rcases eq_of_isMarkupOrQuote h with rfl | rfl | rfl | rfl | rfl <;> rfl

theorem attributeCharacter?_referenceName {c : Char} (h : isMarkupOrQuote c) :
  attributeCharacter? (referenceName c) = some c
  := by
  rcases eq_of_isMarkupOrQuote h with rfl | rfl | rfl | rfl | rfl <;> rfl

/-- The name of a reference is made of letters. -/
theorem isAlpha_of_mem_referenceName {c d : Char} (hd : d ∈ referenceName c) :
  d.isAlpha
  := by
  revert d
  unfold referenceName
  split <;> (rw [← List.all_eq_true]; decide)

theorem isAlpha_of_mem_referenceFor
    {c d : Char} (h : isMarkupOrQuote c) (hd : d ∈ referenceFor c) :
  d = '&' ∨ d.isAlpha ∨ d = ';'
  := by
  rw [referenceFor_eq h, List.mem_cons, List.mem_append, List.mem_singleton] at hd
  rcases hd with rfl | hd | rfl
  · left
    rfl
  · right
    left
    apply isAlpha_of_mem_referenceName hd
  · right
    right
    rfl

@[simp]
theorem escape_nil (special : Char → Bool) :
  escape special [] = []
  := rfl

theorem escape_cons_of_special {special : Char → Bool} {c : Char} (h : special c)
    (cs : List Char) :
  escape special (c :: cs) = referenceFor c ++ escape special cs
  := by
  simp [escape, h]

theorem escape_cons_of_plain {special : Char → Bool} {c : Char} (h : special c = false)
    (cs : List Char) :
  escape special (c :: cs) = c :: escape special cs
  := by
  simp [escape, h]

/-- An escaped text has no character of the class, the signs of references apart. -/
theorem not_mem_escape
    {special : Char → Bool} (known : ∀ c, special c → isMarkupOrQuote c) {d : Char}
    (hd : special d) (not_sign : d ≠ '&') (cs : List Char) :
  d ∉ escape special cs
  := by
  intro h
  simp only [escape, List.mem_flatMap] at h
  obtain ⟨c, -, h⟩ := h
  split at h
  · rename_i hc
    rcases isAlpha_of_mem_referenceFor (known c hc) h with rfl | letter | rfl
    · apply not_sign rfl
    · rcases eq_of_isMarkupOrQuote (known d hd) with rfl | rfl | rfl | rfl | rfl <;>
        revert letter <;> decide
    · have := known _ hd
      revert this
      decide
  · rename_i hc
    rw [List.mem_singleton] at h
    rw [h] at hd
    apply hc hd

/-- An attribute value is what its escaped form is read as. -/
theorem unescape_escape (cs : List Char) :
  unescape (escape isMarkupOrQuote cs) = some cs
  := by
  induction cs with
  | nil => simp [unescape]
  | cons c cs ih =>
    by_cases h : isMarkupOrQuote c
    · have ends : ∀ d ∈ referenceName c, endsReference d = false := by
        intro d hd
        have letter := isAlpha_of_mem_referenceName hd
        have not_semicolon : d ≠ ';' := by
          rintro rfl
          revert letter
          decide
        have not_ampersand : d ≠ '&' := by
          rintro rfl
          revert letter
          decide
        simp [endsReference, not_semicolon, not_ampersand]
      rw [escape_cons_of_special h, referenceFor_eq h, List.cons_append, List.append_assoc,
        List.singleton_append, unescape, if_pos rfl]
      have found := cut_append (escape isMarkupOrQuote cs) (show endsReference ';' by decide) ends
      rw [found]
      simp [attributeCharacter?_referenceName h, ih]
    · have plain : isMarkupOrQuote c = false := by simpa using h
      have not_sign : c ≠ '&' := by
        rintro rfl
        revert h
        decide
      rw [escape_cons_of_plain plain, unescape, if_neg not_sign, ih]
      rfl

/-- A text without the characters of the class is written as it is. -/
theorem escape_of_plain
    {special : Char → Bool} {cs : List Char} (plain : ∀ c ∈ cs, special c = false) :
  escape special cs = cs
  := by
  induction cs with
  | nil => rfl
  | cons c cs ih =>
    rw [escape_cons_of_plain (plain c (by simp)), ih fun d hd => plain d (by simp [hd])]

/-- An attribute value without markup characters stands for itself. -/
theorem unescape_of_plain {cs : List Char} (plain : ∀ c ∈ cs, isMarkupOrQuote c = false) :
  unescape cs = some cs
  := by
  have same := unescape_escape cs
  rw [escape_of_plain plain] at same
  apply same

end OlapClient.Markup
