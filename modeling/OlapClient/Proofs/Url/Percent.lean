import Mathlib.Tactic.Common
import OlapClient.Proofs.Text.Coding
import OlapClient.Url.Percent

/-!
# Percent encoding and form encoding read back

What percent encoding writes has no character of the class it encodes, so encoding it again changes
nothing.  It leaves exactly the texts without such a character as they are, and is undone by
decoding if it encodes the percent sign.  Form encoding is undone by decoding, whatever the
characters: `readForm_formText` reads the pairs of a form from the text that they make.
-/

namespace OlapClient.Url

open OlapClient.Number
open OlapClient.Text

/-! ### Characters of an encoding -/

/-- A character that an encoding of octets consists of. -/
def isEncoding (c : Char) : Bool :=
  c == '%' || c.isDigit || ('A' ≤ c && c ≤ 'F')

theorem isEncoding_hexDigit {n : Nat} (small : n < 16) :
  isEncoding (hexDigit n)
  := by
  have all : ∀ n < 16, isEncoding (hexDigit n) := by decide
  apply all n small

theorem isEncoding_of_mem_percentOctet {b : UInt8} {c : Char} (h : c ∈ percentOctet b) :
  isEncoding c
  := by
  have bound := b.toNat_lt
  simp only [percentOctet, List.mem_cons, List.not_mem_nil, or_false] at h
  rcases h with rfl | rfl | rfl
  · rfl
  · apply isEncoding_hexDigit
    omega
  · apply isEncoding_hexDigit
    omega

theorem isAscii_of_isEncoding {c : Char} (h : isEncoding c) :
  isAscii c
  := by
  simp only [isEncoding, Bool.or_eq_true, beq_iff_eq, Bool.and_eq_true, decide_eq_true_eq,
    Char.isDigit, Char.le_def, UInt32.le_iff_toNat_le] at h
  simp only [isAscii, Char.toNat, decide_eq_true_eq]
  rcases h with (rfl | h) | h
  · decide
  · exact Nat.le_trans h.2 (by decide)
  · exact Nat.le_trans h.2 (by decide)

/-- What holds of the characters of the ASCII range one by one holds of each of them. -/
theorem of_forall_ascii {p : Char → Prop} (all : ∀ n < 128, p (Char.ofNat n)) {c : Char}
    (ascii : isAscii c) :
  p c
  := by
  have small : c.toNat < 128 := by
    simp only [isAscii, decide_eq_true_eq] at ascii
    omega
  have holds := all c.toNat small
  rwa [Char.ofNat_toNat] at holds

/-- A class that holds no character of an encoding. -/
def Spares (special : Char → Bool) : Prop :=
  ∀ c, isEncoding c → special c = false

theorem spares_specialInFragment :
  Spares specialInFragment
  := by
  intro c encoding
  exact of_forall_ascii (p := fun c => isEncoding c → specialInFragment c = false) (by decide)
    (isAscii_of_isEncoding encoding) encoding

theorem spares_specialInPath :
  Spares specialInPath
  := by
  intro c encoding
  exact of_forall_ascii (p := fun c => isEncoding c → specialInPath c = false) (by decide)
    (isAscii_of_isEncoding encoding) encoding

theorem spares_specialInUserinfo :
  Spares specialInUserinfo
  := by
  intro c encoding
  exact of_forall_ascii (p := fun c => isEncoding c → specialInUserinfo c = false) (by decide)
    (isAscii_of_isEncoding encoding) encoding

/-! ### Percent encoding -/

section

variable {special : Char → Bool} {cs : List Char}

@[simp]
theorem percentEncode_nil :
  percentEncode special [] = []
  := rfl

theorem percentEncode_cons (c : Char) (cs : List Char) :
  percentEncode special (c :: cs)
    = (if special c then (String.utf8EncodeChar c).flatMap percentOctet else [c])
      ++ percentEncode special cs
  := rfl

theorem percentEncode_of_plain (plain : ∀ c ∈ cs, special c = false) :
  percentEncode special cs = cs
  := by
  induction cs with
  | nil => rfl
  | cons c cs ih =>
    rw [percentEncode, List.flatMap_cons, plain c (by simp)]
    have rest := ih fun d hd => plain d (by simp [hd])
    rw [percentEncode] at rest
    rw [rest]
    rfl

theorem length_flatMap_percentOctet (bytes : Octets) :
  (bytes.flatMap percentOctet).length = 3 * bytes.length
  := by
  induction bytes with
  | nil => rfl
  | cons b bytes ih =>
    rw [List.flatMap_cons, List.length_append, ih, List.length_cons]
    simp only [percentOctet, List.length_cons, List.length_nil]
    omega

theorem lt_length_percentOctets (c : Char) :
  1 < ((String.utf8EncodeChar c).flatMap percentOctet).length
  := by
  have some_octet := c.utf8Size_pos
  rw [length_flatMap_percentOctet, String.length_utf8EncodeChar]
  omega

theorem length_le_length_percentEncode (cs : List Char) :
  cs.length ≤ (percentEncode special cs).length
  := by
  induction cs with
  | nil => exact Nat.zero_le _
  | cons c cs ih =>
    have longer := lt_length_percentOctets c
    rw [percentEncode_cons, List.length_append, List.length_cons]
    split
    · omega
    · rw [List.length_singleton]
      omega

theorem percentEncode_eq_nil_iff :
  percentEncode special cs = [] ↔ cs = []
  := by
  constructor
  · intro none
    have longer := @length_le_length_percentEncode special cs
    rw [none, List.length_nil] at longer
    exact List.length_eq_zero_iff.mp (Nat.le_zero.mp longer)
  · rintro rfl
    rfl

/-- Percent encoding leaves exactly the texts that have no character of its class as they are. -/
theorem percentEncode_eq_self_iff :
  percentEncode special cs = cs ↔ ∀ c ∈ cs, special c = false
  := by
  constructor
  · intro same
    induction cs with
    | nil => simp
    | cons c cs ih =>
      rw [percentEncode_cons] at same
      split at same
      · -- an encoded character takes more room than the text has
        have lengths := congrArg List.length same
        have longer := lt_length_percentOctets c
        have rest := @length_le_length_percentEncode special cs
        rw [List.length_append, List.length_cons] at lengths
        omega
      · rename_i plain
        rw [List.singleton_append, List.cons_inj_right] at same
        rw [List.forall_mem_cons]
        exact ⟨by simpa using plain, ih same⟩
  · apply percentEncode_of_plain

/-- What percent encoding writes is kept or encodes octets. -/
theorem plain_or_encoding_of_mem_percentEncode {c : Char} (h : c ∈ percentEncode special cs) :
  (c ∈ cs ∧ special c = false) ∨ isEncoding c
  := by
  obtain ⟨d, hd, h⟩ := List.mem_flatMap.mp h
  split at h
  · obtain ⟨b, -, h⟩ := List.mem_flatMap.mp h
    right
    apply isEncoding_of_mem_percentOctet h
  · rename_i plain
    rw [List.mem_singleton] at h
    left
    rw [h]
    exact ⟨hd, by simpa using plain⟩

theorem plain_of_mem_percentEncode
    (spares : Spares special) {c : Char} (h : c ∈ percentEncode special cs) :
  special c = false
  := by
  rcases plain_or_encoding_of_mem_percentEncode h with ⟨-, plain⟩ | encoding
  · exact plain
  · apply spares c encoding

end

/-! ### Percent decoding -/

theorem percentDecode_cons_of_ne {b : UInt8} (h : b ≠ 0x25) (bytes : Octets) :
  percentDecode (b :: bytes) = b :: percentDecode bytes
  := by
  rcases bytes with _ | ⟨c, _ | ⟨d, bytes⟩⟩
  · rfl
  · rfl
  · rw [percentDecode]
    simp [h]

theorem percentDecode_append_of_forall_ne
    {front : Octets} (h : ∀ b ∈ front, b ≠ 0x25) (bytes : Octets) :
  percentDecode (front ++ bytes) = front ++ percentDecode bytes
  := by
  induction front with
  | nil => rfl
  | cons b front ih =>
    rw [List.cons_append, percentDecode_cons_of_ne (h b (by simp)),
      ih fun c hc => h c (by simp [hc]), List.cons_append]

theorem hexValue?_hexDigit {n : Nat} (small : n < 16) :
  hexValue? (UInt8.ofNat (hexDigit n).toNat) = some n
  := by
  have all : ∀ n < 16, hexValue? (UInt8.ofNat (hexDigit n).toNat) = some n := by decide
  apply all n small

theorem encode_of_isAscii {cs : List Char} (ascii : ∀ c ∈ cs, isAscii c) :
  encode cs = cs.map fun c => UInt8.ofNat c.toNat
  := by
  induction cs with
  | nil => rfl
  | cons c cs ih =>
    rw [encode_cons, utf8EncodeChar_of_isAscii (ascii c (by simp)),
      ih fun d hd => ascii d (by simp [hd])]
    rfl

theorem encode_percentOctet (b : UInt8) :
  encode (percentOctet b)
    = [0x25, UInt8.ofNat (hexDigit (b.toNat / 16)).toNat,
        UInt8.ofNat (hexDigit (b.toNat % 16)).toNat]
  := by
  rw [encode_of_isAscii fun c hc => isAscii_of_isEncoding (isEncoding_of_mem_percentOctet hc)]
  rfl

/-- An encoded octet is decoded. -/
theorem percentDecode_percentOctet (b : UInt8) (bytes : Octets) :
  percentDecode (encode (percentOctet b) ++ bytes) = b :: percentDecode bytes
  := by
  have bound := b.toNat_lt
  have high : b.toNat / 16 < 16 := by omega
  have low : b.toNat % 16 < 16 := by omega
  have value : UInt8.ofNat (b.toNat / 16 * 16 + b.toNat % 16) = b := by
    rw [Nat.div_add_mod']
    apply UInt8.ofNat_toNat
  rw [encode_percentOctet, List.cons_append, List.cons_append, List.cons_append, List.nil_append,
    percentDecode, hexValue?_hexDigit high, hexValue?_hexDigit low]
  simp [value]

theorem percentDecode_percentOctets (front bytes : Octets) :
  percentDecode (encode (front.flatMap percentOctet) ++ bytes) = front ++ percentDecode bytes
  := by
  induction front with
  | nil => rfl
  | cons b front ih =>
    rw [List.flatMap_cons, encode_append, List.append_assoc, percentDecode_percentOctet, ih]
    rfl

theorem ne_percent_octets {cs : List Char} (plain : '%' ∉ cs) :
  ∀ b ∈ encode cs, b ≠ 0x25
  := by
  intro b hb
  obtain ⟨c, hc, hb⟩ := List.mem_flatMap.mp hb
  by_cases ascii : isAscii c
  · rw [utf8EncodeChar_of_isAscii ascii, List.mem_singleton] at hb
    rintro rfl
    have code := congrArg UInt8.toNat hb
    rw [toNat_ofNat_of_isAscii ascii] at code
    have sign : c = '%' := Char.toNat_inj.mp code.symm
    exact plain (sign ▸ hc)
  · have beyond := le_of_mem_utf8EncodeChar (by simpa using ascii) hb
    rintro rfl
    simp at beyond

/-- A text without percent signs holds no encoded octets. -/
theorem percentDecode_encode {cs : List Char} (plain : '%' ∉ cs) :
  percentDecode (encode cs) = encode cs
  := by
  have whole := percentDecode_append_of_forall_ne (ne_percent_octets plain) []
  simpa [percentDecode] using whole

/-- Decoding undoes percent encoding that also encodes the percent sign. -/
theorem percentDecode_percentEncode {special : Char → Bool} (sign : special '%') (cs : List Char) :
  percentDecode (encode (percentEncode special cs)) = encode cs
  := by
  induction cs with
  | nil => rfl
  | cons c cs ih =>
    rw [percentEncode_cons, encode_append, encode_cons]
    split
    · rw [percentDecode_percentOctets, ih]
    · rename_i plain
      have apart : '%' ∉ [c] := by
        rw [List.mem_singleton]
        rintro rfl
        exact plain sign
      rw [percentDecode_append_of_forall_ne (ne_percent_octets apart), ih]
      simp [encode]

/-! ### Names and values of forms -/

/-- A space for a plus sign, as decoding reads it. -/
def spaceForPlus (c : Char) : Char :=
  if c == '+' then ' ' else c

theorem formDecode_eq (cs : List Char) :
  formDecode cs = decodeLossy (percentDecode (encode (cs.map spaceForPlus)))
  := rfl

theorem formEncode_cons (c : Char) (cs : List Char) :
  formEncode (c :: cs)
    = (if c == ' ' then ['+'] else percentEncode (!isFormSafe ·) [c]) ++ formEncode cs
  := rfl

theorem map_spaceForPlus {cs : List Char} (h : '+' ∉ cs) :
  cs.map spaceForPlus = cs
  := by
  rw [List.map_congr_left (g := id), List.map_id]
  intro c hc
  have ne : c ≠ '+' := by
    rintro rfl
    exact h hc
  simp [spaceForPlus, ne]

/-- The characters that form encoding keeps are of the ASCII range, and none of them is a sign that
decoding reads as something else. -/
theorem isAscii_of_isFormSafe {c : Char} (h : isFormSafe c) :
  isAscii c
  := by
  have alpha : c.isAlpha = (c.isUpper || c.isLower) := rfl
  have upper : c.isUpper = decide (c.val ≥ 'A'.val ∧ c.val ≤ 'Z'.val) := rfl
  have lower : c.isLower = (decide (c.val ≥ 'a'.val) && decide (c.val ≤ 'z'.val)) := rfl
  simp only [isFormSafe, Char.isAlphanum, alpha, upper, lower, Char.isDigit, Bool.or_eq_true,
    Bool.and_eq_true, decide_eq_true_eq, ge_iff_le, UInt32.le_iff_toNat_le] at h
  simp only [isAscii, Char.toNat, decide_eq_true_eq]
  rcases h with ((h | h) | h) | h
  · exact Nat.le_trans h.2 (by decide)
  · exact Nat.le_trans h.2 (by decide)
  · exact Nat.le_trans h.2 (by decide)
  · have listed : c ∈ ['*', '-', '.', '_'] := by simpa using h
    simp only [List.mem_cons, List.not_mem_nil, or_false] at listed
    rcases listed with rfl | rfl | rfl | rfl <;> decide

/-- The character that was encoded is decoded. -/
theorem percentDecode_formEncode_cons (c : Char) (bytes : Octets) :
  percentDecode (encode ((if c == ' ' then ['+'] else percentEncode (!isFormSafe ·) [c]).map
      spaceForPlus) ++ bytes)
    = String.utf8EncodeChar c ++ percentDecode bytes
  := by
  by_cases space : c = ' '
  · subst space
    apply percentDecode_cons_of_ne (by decide)
  · rw [if_neg (by simpa using space)]
    by_cases safe : isFormSafe c
    · have plain : percentEncode (!isFormSafe ·) [c] = [c] := by
        apply percentEncode_of_plain
        simpa using safe
      have ne_plus : '+' ∉ [c] := by
        rw [List.mem_singleton]
        rintro rfl
        exact absurd safe (by decide)
      have ne_percent : '%' ∉ [c] := by
        rw [List.mem_singleton]
        rintro rfl
        exact absurd safe (by decide)
      have octets := percentDecode_append_of_forall_ne (ne_percent_octets ne_percent) bytes
      rw [plain, map_spaceForPlus ne_plus]
      simpa using octets
    · have encoded : percentEncode (!isFormSafe ·) [c]
          = (String.utf8EncodeChar c).flatMap percentOctet := by
        simp [percentEncode, safe]
      have ne_plus : '+' ∉ (String.utf8EncodeChar c).flatMap percentOctet := by
        intro h
        obtain ⟨b, -, h⟩ := List.mem_flatMap.mp h
        exact absurd (isEncoding_of_mem_percentOctet h) (by decide)
      rw [encoded, map_spaceForPlus ne_plus, percentDecode_percentOctets]

theorem percentDecode_formEncode (cs : List Char) (bytes : Octets) :
  percentDecode (encode ((formEncode cs).map spaceForPlus) ++ bytes)
    = encode cs ++ percentDecode bytes
  := by
  induction cs with
  | nil => rfl
  | cons c cs ih =>
    rw [formEncode_cons, List.map_append, encode_append, List.append_assoc,
      percentDecode_formEncode_cons, ih, encode_cons, List.append_assoc]

/-- Decoding undoes form encoding. -/
theorem formDecode_formEncode (cs : List Char) :
  formDecode (formEncode cs) = cs
  := by
  have octets := percentDecode_formEncode cs []
  simp only [List.append_nil, percentDecode] at octets
  rw [formDecode_eq, octets, decodeLossy, decode_encode, List.map_map]
  apply List.map_id

/-! ### Parts and separators -/

section

variable {separator : Char}

theorem splitBy_ne_nil (cs : List Char) :
  splitBy separator cs ≠ []
  := by
  fun_cases splitBy separator cs <;> simp

theorem splitBy_of_not_mem {part : List Char} (apart : separator ∉ part) :
  splitBy separator part = [part]
  := by
  induction part with
  | nil => rfl
  | cons c part ih =>
    simp only [List.mem_cons, not_or] at apart
    rw [splitBy, if_neg (Ne.symm apart.1), ih apart.2]

theorem splitBy_append {part : List Char} (apart : separator ∉ part) (rest : List Char) :
  splitBy separator (part ++ separator :: rest) = part :: splitBy separator rest
  := by
  induction part with
  | nil => simp [splitBy]
  | cons c part ih =>
    simp only [List.mem_cons, not_or] at apart
    rw [List.cons_append, splitBy, if_neg (Ne.symm apart.1), ih apart.2]

theorem joinBy_cons_cons (part next : List Char) (parts : List (List Char)) :
  joinBy separator (part :: next :: parts)
    = part ++ separator :: joinBy separator (next :: parts)
  := by
  rw [joinBy]
  simp

/-- Parts that were joined are found again. -/
theorem splitBy_joinBy
    {parts : List (List Char)} (some_part : parts ≠ [])
    (apart : ∀ part ∈ parts, separator ∉ part) :
  splitBy separator (joinBy separator parts) = parts
  := by
  induction parts with
  | nil => contradiction
  | cons part parts ih =>
    cases parts with
    | nil => apply splitBy_of_not_mem (apart part (by simp))
    | cons next parts =>
      rw [joinBy_cons_cons, splitBy_append (apart part (by simp)),
        ih (by simp) fun part hpart => apart part (by simp [hpart])]

/-- A text is its parts, joined. -/
theorem joinBy_splitBy (cs : List Char) :
  joinBy separator (splitBy separator cs) = cs
  := by
  induction cs with
  | nil => rfl
  | cons c cs ih =>
    obtain ⟨part, parts, found⟩ := List.exists_cons_of_ne_nil (@splitBy_ne_nil separator cs)
    rw [splitBy, found]
    rw [found] at ih
    split
    · rename_i same
      rw [joinBy_cons_cons, ih, same]
      rfl
    · cases parts with
      | nil => rw [← ih, joinBy, joinBy]
      | cons next parts =>
        rw [joinBy_cons_cons] at ih ⊢
        rw [← ih, List.cons_append]

theorem separator_not_mem_of_mem_splitBy {cs part : List Char} (h : part ∈ splitBy separator cs) :
  separator ∉ part
  := by
  induction cs generalizing part with
  | nil =>
    simp only [splitBy, List.mem_singleton] at h
    simp [h]
  | cons c cs ih =>
    rw [splitBy] at h
    split at h
    · rcases List.mem_cons.mp h with rfl | h
      · simp
      · apply ih h
    · rename_i other
      split at h
      · rename_i first parts found
        rw [found] at ih
        rcases List.mem_cons.mp h with rfl | h
        · simp only [List.mem_cons, not_or]
          exact ⟨Ne.symm other, ih (by simp)⟩
        · apply ih (by simp [h])
      · rw [List.mem_singleton] at h
        simp [h, Ne.symm other]

theorem mem_of_mem_splitBy {cs part : List Char} {c : Char} (h : part ∈ splitBy separator cs)
    (hc : c ∈ part) :
  c ∈ cs
  := by
  induction cs generalizing part with
  | nil =>
    simp only [splitBy, List.mem_singleton] at h
    simp [h] at hc
  | cons d cs ih =>
    rw [splitBy] at h
    split at h
    · rcases List.mem_cons.mp h with rfl | h
      · simp at hc
      · exact List.mem_cons_of_mem _ (ih h hc)
    · split at h
      · rename_i first parts found
        rw [found] at ih
        rcases List.mem_cons.mp h with rfl | h
        · rcases List.mem_cons.mp hc with rfl | hc
          · simp
          · exact List.mem_cons_of_mem _ (ih List.mem_cons_self hc)
        · exact List.mem_cons_of_mem _ (ih (List.mem_cons_of_mem _ h) hc)
      · rw [List.mem_singleton] at h
        rw [h, List.mem_singleton] at hc
        simp [hc]

theorem mem_joinBy {parts : List (List Char)} {c : Char} (h : c ∈ joinBy separator parts) :
  c = separator ∨ ∃ part ∈ parts, c ∈ part
  := by
  induction parts with
  | nil => simp [joinBy] at h
  | cons part parts ih =>
    cases parts with
    | nil => exact .inr ⟨part, by simp, h⟩
    | cons next parts =>
      rw [joinBy_cons_cons] at h
      rcases List.mem_append.mp h with h | h
      · exact .inr ⟨part, by simp, h⟩
      · rcases List.mem_cons.mp h with rfl | h
        · exact .inl rfl
        · rcases ih h with rfl | ⟨other, listed, h⟩
          · exact .inl rfl
          · exact .inr ⟨other, List.mem_cons_of_mem _ listed, h⟩

end

/-! ### Forms -/

/-- A character of an encoded name or value. -/
def isForm (c : Char) : Bool :=
  isFormSafe c || c == '+' || isEncoding c

theorem isForm_of_mem_formEncode {cs : List Char} {c : Char} (h : c ∈ formEncode cs) :
  isForm c
  := by
  obtain ⟨d, -, h⟩ := List.mem_flatMap.mp h
  split at h
  · rw [List.mem_singleton] at h
    rw [h]
    rfl
  · rcases plain_or_encoding_of_mem_percentEncode h with ⟨-, plain⟩ | encoding
    · have safe : isFormSafe c := by simpa using plain
      simp [isForm, safe]
    · simp [isForm, encoding]

theorem not_mem_formEncode {c : Char} (other : isForm c = false) (cs : List Char) :
  c ∉ formEncode cs
  := by
  intro h
  rw [isForm_of_mem_formEncode h] at other
  cases other

theorem readPair_pairText (pair : List Char × List Char) :
  readPair (pairText pair) = pair
  := by
  have found : cut (· == '=') (pairText pair)
      = some (formEncode pair.1, '=', formEncode pair.2) := by
    apply cut_append _ rfl
    intro c hc
    rw [beq_eq_false_iff_ne]
    rintro rfl
    exact not_mem_formEncode (by decide) pair.1 hc
  rw [readPair, found]
  simp only [formDecode_formEncode]

/-- A form has only characters of names and values, and the signs between them. -/
theorem isForm_or_of_mem_formText
    {pairs : List (List Char × List Char)} {c : Char} (h : c ∈ formText pairs) :
  isForm c ∨ c = '=' ∨ c = '&'
  := by
  rcases mem_joinBy h with rfl | ⟨part, listed, h⟩
  · simp
  · obtain ⟨pair, -, rfl⟩ := List.mem_map.mp listed
    rcases List.mem_append.mp h with h | h
    · exact .inl (isForm_of_mem_formEncode h)
    · rcases List.mem_cons.mp h with rfl | h
      · simp
      · exact .inl (isForm_of_mem_formEncode h)

/-- The pairs of a form are read from its text. -/
theorem readForm_formText (pairs : List (List Char × List Char)) :
  readForm (formText pairs) = pairs
  := by
  have kept : (pairs.map pairText).filter (!·.isEmpty) = pairs.map pairText := by
    rw [List.filter_eq_self]
    intro part listed
    obtain ⟨pair, -, rfl⟩ := List.mem_map.mp listed
    simp [pairText]
  have apart : ∀ part ∈ pairs.map pairText, '&' ∉ part := by
    intro part listed
    obtain ⟨pair, -, rfl⟩ := List.mem_map.mp listed
    have first := not_mem_formEncode (by decide : isForm '&' = false) pair.1
    have second := not_mem_formEncode (by decide : isForm '&' = false) pair.2
    simp [pairText, first, second]
  by_cases none : pairs = []
  · rw [none]
    rfl
  · rw [readForm, formText, splitBy_joinBy (by simpa using none) apart, kept, List.map_map,
      List.map_congr_left (g := id), List.map_id]
    intro pair _
    apply readPair_pairText

end OlapClient.Url
