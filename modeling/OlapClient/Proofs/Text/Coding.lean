import Mathlib.Tactic.Common
import OlapClient.Text.Cut
import OlapClient.Text.Utf8

/-!
# Texts through their octets

`decode` gives back the characters that `encode` wrote, whatever octets follow.  An ASCII text
stands within the octets of another text only where it stands within that text, since no octet of
a longer sequence is one of ASCII; `cutMark` finds it there.
-/

namespace OlapClient.Text

/-! ### Decoding what was encoded -/

theorem leadingChar?_encode (c : Char) (bytes : Octets) :
  leadingChar? (String.utf8EncodeChar c ++ bytes) = some c
  := by
  have short : (String.utf8EncodeChar c).length ≤ 4 := by
    rw [String.length_utf8EncodeChar]
    apply Char.utf8Size_le_four
  rw [leadingChar?, List.take_append, List.take_of_length_le short, List.toByteArray_append]
  apply ByteArray.utf8DecodeChar?_utf8EncodeChar_append

theorem utf8EncodeChar_eq_cons (c : Char) :
  ∃ b tail, String.utf8EncodeChar c = b :: tail
  := by
  apply List.exists_cons_of_length_pos
  rw [String.length_utf8EncodeChar]
  apply Char.utf8Size_pos

/-- The octets of a character are read as that character. -/
theorem decode_encodeChar (c : Char) (bytes : Octets) :
  decode (String.utf8EncodeChar c ++ bytes) = some c :: decode bytes
  := by
  obtain ⟨b, tail, h⟩ := utf8EncodeChar_eq_cons c
  have lead := leadingChar?_encode c bytes
  have size : tail.length = c.utf8Size - 1 := by
    have length := String.length_utf8EncodeChar c
    rw [h, List.length_cons] at length
    omega
  rw [h, List.cons_append] at lead ⊢
  rw [decode, lead]
  simp only [List.cons.injEq, true_and]
  rw [← size, List.drop_left]

@[simp]
theorem encode_cons (c : Char) (cs : List Char) :
  encode (c :: cs) = String.utf8EncodeChar c ++ encode cs
  := rfl

/-- The octets of a text are read as its characters. -/
theorem decode_encode_append (cs : List Char) (bytes : Octets) :
  decode (encode cs ++ bytes) = cs.map some ++ decode bytes
  := by
  induction cs with
  | nil => rfl
  | cons c cs ih =>
    rw [encode_cons, List.append_assoc, decode_encodeChar, ih]
    rfl

theorem decode_encode (cs : List Char) :
  decode (encode cs) = cs.map some
  := by
  have h := decode_encode_append cs []
  simpa [decode] using h

/-- Texts with the same octets are the same. -/
theorem encode_injective {cs ds : List Char} (h : encode cs = encode ds) :
  cs = ds
  := by
  have read := congrArg decode h
  rw [decode_encode, decode_encode] at read
  exact (List.map_inj_right fun _ _ => Option.some.inj).mp read

/-! ### ASCII texts within octets -/

/-- A character of the ASCII range. -/
def isAscii (c : Char) : Bool :=
  c.toNat ≤ 127

theorem utf8EncodeChar_of_isAscii {c : Char} (h : isAscii c) :
  String.utf8EncodeChar c = [UInt8.ofNat c.toNat]
  := by
  have small : c.val.toNat ≤ 127 := by simpa [isAscii] using h
  rw [String.utf8EncodeChar, if_pos small]
  rfl

/-- Every octet of a character beyond ASCII is beyond ASCII. -/
theorem le_of_mem_utf8EncodeChar
    {c : Char} (h : isAscii c = false) {b : UInt8} (hb : b ∈ String.utf8EncodeChar c) :
  128 ≤ b.toNat
  := by
  have large : ¬ c.val.toNat ≤ 127 := by simpa [isAscii] using h
  simp only [String.utf8EncodeChar, if_neg large] at hb
  split at hb
  · simp only [List.mem_cons, List.not_mem_nil, or_false] at hb
    rcases hb with rfl | rfl <;> simp <;> omega
  · split at hb
    · simp only [List.mem_cons, List.not_mem_nil, or_false] at hb
      rcases hb with rfl | rfl | rfl <;> simp <;> omega
    · simp only [List.mem_cons, List.not_mem_nil, or_false] at hb
      rcases hb with rfl | rfl | rfl | rfl <;> simp <;> omega

theorem toNat_ofNat_of_isAscii {c : Char} (h : isAscii c) :
  (UInt8.ofNat c.toNat).toNat = c.toNat
  := by
  have small : c.toNat ≤ 127 := by simpa [isAscii] using h
  simp only [UInt8.toNat_ofNat']
  omega

/-- The octets after the first one of a character are beyond ASCII. -/
theorem le_of_mem_tail
    {c : Char} {b t : UInt8} {tail : Octets} (h : String.utf8EncodeChar c = b :: tail)
    (ht : t ∈ tail) :
  128 ≤ t.toNat
  := by
  by_cases ascii : isAscii c
  · rw [utf8EncodeChar_of_isAscii ascii] at h
    cases h
    simp at ht
  · apply le_of_mem_utf8EncodeChar (by simpa using ascii)
    rw [h]
    apply List.mem_cons_of_mem _ ht

/-- An ASCII text that begins the octets of a text begins that text. -/
theorem prefix_of_encode_prefix
    {mark cs : List Char} (ascii : ∀ c ∈ mark, isAscii c) (h : encode mark <+: encode cs) :
  mark <+: cs
  := by
  induction mark generalizing cs with
  | nil => apply List.nil_prefix
  | cons a mark ih =>
    have ha := ascii a (by simp)
    rw [encode_cons, utf8EncodeChar_of_isAscii ha] at h
    cases cs with
    | nil => simp at h
    | cons c cs =>
      obtain ⟨b, tail, hc⟩ := utf8EncodeChar_eq_cons c
      rw [encode_cons, hc] at h
      simp only [List.cons_append, List.nil_append, List.cons_prefix_cons] at h
      obtain ⟨hb, h⟩ := h
      have ascii_c : isAscii c := by
        by_contra beyond
        have large := le_of_mem_utf8EncodeChar (b := b) (by simpa using beyond) (by simp [hc])
        have small : a.toNat ≤ 127 := by simpa [isAscii] using ha
        rw [← hb, toNat_ofNat_of_isAscii ha] at large
        omega
      rw [utf8EncodeChar_of_isAscii ascii_c] at hc
      cases hc
      have same : a.toNat = c.toNat := by
        rw [← toNat_ofNat_of_isAscii ha, hb, toNat_ofNat_of_isAscii ascii_c]
      rw [Char.toNat_inj.mp same, List.cons_prefix_cons]
      constructor
      · rfl
      · apply ih (fun x hx => ascii x (by simp [hx])) (by simpa using h)

/-- An ASCII text does not begin within octets beyond ASCII. -/
theorem infix_of_infix_append
    {mark : List Char} (ascii : ∀ c ∈ mark, isAscii c) {tail bytes : Octets}
    (beyond : ∀ t ∈ tail, 128 ≤ t.toNat) (h : encode mark <:+: tail ++ bytes) :
  encode mark <:+: bytes
  := by
  induction tail with
  | nil => apply h
  | cons t tail ih =>
    cases mark with
    | nil => apply List.nil_infix
    | cons a mark =>
      rw [List.cons_append] at h
      rcases List.infix_cons_iff.mp h with begins | later
      · have ha := ascii a (by simp)
        rw [encode_cons, utf8EncodeChar_of_isAscii ha, List.singleton_append,
          List.cons_prefix_cons] at begins
        have large := beyond t (by simp)
        have small : a.toNat ≤ 127 := by simpa [isAscii] using ha
        rw [← begins.1, toNat_ofNat_of_isAscii ha] at large
        omega
      · apply ih (fun x hx => beyond x (by simp [hx])) later

/-- An ASCII text that stands within the octets of a text stands within that text. -/
theorem infix_of_encode_infix
    {mark cs : List Char} (ascii : ∀ c ∈ mark, isAscii c) (h : encode mark <:+: encode cs) :
  mark <:+: cs
  := by
  induction cs with
  | nil =>
    cases mark with
    | nil => apply List.nil_infix
    | cons a mark =>
      obtain ⟨b, tail, ha⟩ := utf8EncodeChar_eq_cons a
      simp [ha] at h
  | cons c cs ih =>
    obtain ⟨b, tail, hc⟩ := utf8EncodeChar_eq_cons c
    have within := h
    rw [encode_cons, hc, List.cons_append] at h
    rcases List.infix_cons_iff.mp h with begins | later
    · apply List.IsPrefix.isInfix
      apply prefix_of_encode_prefix ascii
      rw [encode_cons, hc]
      apply begins
    · apply List.infix_cons
      apply ih
      apply infix_of_infix_append ascii (fun t ht => le_of_mem_tail hc ht) later

/-- A cut at a mark succeeds exactly when the mark stands within the list. -/
theorem isSome_cutMark_iff {α : Type} [BEq α] [LawfulBEq α] (mark l : List α) :
  (cutMark mark l).isSome ↔ mark <:+: l
  := by
  induction l with
  | nil => cases mark <;> simp [cutMark]
  | cons a rest ih =>
    rw [cutMark, List.infix_cons_iff, ← ih, ← List.isPrefixOf_iff_prefix]
    split
    · rename_i begins
      simp [begins]
    · rename_i absent
      simp [absent]

/-- A list is cut at a mark whose first element does not stand before it. -/
theorem cutMark_append
    {α : Type} [BEq α] [LawfulBEq α] {a : α} {before : List α} (h : a ∉ before)
    (mark rest : List α) :
  cutMark (a :: mark) (before ++ (a :: mark ++ rest)) = some (before, rest)
  := by
  induction before with
  | nil =>
    rw [List.nil_append, List.cons_append, cutMark, if_pos (by simp)]
    simp
  | cons b before ih =>
    simp only [List.mem_cons, not_or] at h
    have differs : (a :: mark).isPrefixOf (b :: (before ++ (a :: mark ++ rest))) = false := by
      simp [List.isPrefixOf, h.1]
    rw [List.cons_append, cutMark, differs, ih h.2]
    rfl

/-- Nothing is cut where nothing satisfies `stop`. -/
theorem cut_eq_none_iff {α : Type} {stop : α → Bool} {l : List α} :
  cut stop l = none ↔ ∀ a ∈ l, stop a = false
  := by
  induction l with
  | nil => simp [cut]
  | cons a l ih =>
    rw [cut]
    split <;> simp_all

end OlapClient.Text
