import OlapClient.Proofs.Number.Numeral
import OlapClient.Proofs.Results
import OlapClient.Proofs.Url.Domain.Mapping
import OlapClient.Proofs.Url.Percent
import OlapClient.Proofs.Url.Punycode
import OlapClient.Url.Host

/-!
# Domain names in ASCII read again

A label of a domain name that was read is in its one form: its characters stand for themselves and
are composed, and it does not look like the ASCII form of another label.  Such a label is read from
what it is written as, and the labels of a domain name are therefore those of what it is written as.

Only the length can be in the way.  A label beyond ASCII may be written longer than any label that
is read from its ASCII form.
-/

namespace OlapClient.Url.Domain

open OlapClient.Number
open OlapClient.Text

/-! ### Labels that were read -/

/-- A label in its one form. -/
structure IsSettled (label : List Char) : Prop where
  kept : ∀ c ∈ label, isKept c
  composed : compose label = label
  unmarked : ¬asciiMark.isPrefixOf label
  apart : '.' ∉ label

theorem isKept_of_mem_mapCharacters
    {cs mapped : List Char} (h : mapCharacters cs = some mapped) {c : Char} (hc : c ∈ mapped) :
  isKept c
  := by
  obtain ⟨images, found, rfl⟩ := Option.map_eq_some_iff.mp h
  obtain ⟨image, hi, hc⟩ := List.mem_flatten.mp hc
  obtain ⟨d, -, maps⟩ := exists_of_mem_of_mapM_eq_some found hi
  exact isKept_of_mem_mapCharacter maps hc

theorem isKept_of_mem_compose
    {cs : List Char} (h : ∀ c ∈ cs, isKept c) {c : Char} (hc : c ∈ compose cs) :
  isKept c
  := by
  rcases mem_compose hc with member | tabled
  · exact h c member
  · exact tabled.isKept

/-- The labels of a composed text are the composed labels of the text. -/
theorem compose_joinBy (labels : List (List Char)) :
  compose (joinBy '.' labels) = joinBy '.' (labels.map compose)
  := by
  induction labels with
  | nil => rfl
  | cons label labels ih =>
    cases labels with
    | nil => rfl
    | cons next labels =>
      simp only [List.map_cons] at ih ⊢
      rw [joinBy_cons_cons, compose_append_stop, ih, joinBy_cons_cons]

theorem splitBy_compose (cs : List Char) :
  splitBy '.' (compose cs) = (splitBy '.' cs).map compose
  := by
  have apart : ∀ label ∈ (splitBy '.' cs).map compose, '.' ∉ label := by
    intro label hl
    obtain ⟨part, hp, rfl⟩ := List.mem_map.mp hl
    exact stop_not_mem_compose (separator_not_mem_of_mem_splitBy hp)
  have some_label : (splitBy '.' cs).map compose ≠ [] := by
    rw [ne_eq, List.map_eq_nil_iff]
    apply splitBy_ne_nil
  have joined := compose_joinBy (splitBy '.' cs)
  rw [joinBy_splitBy] at joined
  rw [joined, splitBy_joinBy some_label apart]

/-- A label from its ASCII form is in its one form. -/
theorem isSettled_of_readForm?
    {form label : List Char} (h : readForm? form = some label) :
  IsSettled label
  := by
  obtain ⟨label', -, h⟩ := Option.bind_eq_some_iff.mp h
  split at h
  · rename_i proper
    cases h
    obtain ⟨-, -, -, -, kept, composed, unmarked, apart⟩ := proper
    exact ⟨List.all_eq_true.mp kept, composed, unmarked, apart⟩
  · cases h

/-- A label that is not in ASCII form is composed of characters that stand for themselves. -/
theorem isSettled_of_mem_splitBy
    {cs mapped label : List Char} (h : mapCharacters cs = some mapped)
    (hl : label ∈ splitBy '.' (compose mapped)) (unmarked : ¬asciiMark.isPrefixOf label) :
  IsSettled label
  := by
  rw [splitBy_compose, List.mem_map] at hl
  obtain ⟨part, hp, rfl⟩ := hl
  have kept : ∀ c ∈ part, isKept c := by
    intro c hc
    exact isKept_of_mem_mapCharacters h (mem_of_mem_splitBy hp hc)
  exact ⟨fun c => isKept_of_mem_compose kept, compose_compose part, unmarked,
    stop_not_mem_compose (separator_not_mem_of_mem_splitBy hp)⟩

/-- What reading a domain name comes to. -/
theorem readDomain_eq_some_iff
    {cs : List Char} {labels : List (List Char)} :
  readDomain cs = some labels ↔ ∃ mapped, mapCharacters cs = some mapped
    ∧ (splitBy '.' (compose mapped)).mapM readLabel = some labels
    ∧ (∀ label ∈ labels, isValid label)
    ∧ (!labels.any (·.any turnsRight) || labels.all isUnambiguous)
  := by
  rw [readDomain]
  constructor
  · intro h
    obtain ⟨mapped, maps, h⟩ := Option.bind_eq_some_iff.mp h
    obtain ⟨read, reads, h⟩ := Option.bind_eq_some_iff.mp h
    simp only [Bool.and_eq_true, List.all_eq_true] at h
    split at h
    · rename_i proper
      cases h
      exact ⟨mapped, maps, reads, proper⟩
    · cases h
  · rintro ⟨mapped, maps, reads, valid, unambiguous⟩
    rw [← List.all_eq_true] at valid
    simp only [maps, reads, Option.bind_eq_bind, Option.bind_some, valid, unambiguous,
      Bool.and_self, if_true]

/-- The labels of a domain name that was read are in their one form. -/
theorem isSettled_of_readDomain
    {cs : List Char} {labels : List (List Char)} (h : readDomain cs = some labels)
    {label : List Char} (hl : label ∈ labels) :
  IsSettled label
  := by
  obtain ⟨mapped, maps, reads, -⟩ := readDomain_eq_some_iff.mp h
  obtain ⟨part, hp, read⟩ := exists_of_mem_of_mapM_eq_some reads hl
  rw [readLabel] at read
  split at read
  · exact isSettled_of_readForm? read
  · rename_i unmarked
    cases read
    exact isSettled_of_mem_splitBy maps hp unmarked

/-! ### Labels that were written -/

section

variable {label : List Char} {c : Char}

theorem isKept_of_ascii
    (ascii : c.toNat < 0x80) (small : ¬('A'.toNat ≤ c.toNat ∧ c.toNat ≤ 'Z'.toNat)) :
  isKept c
  := by
  rw [isKept, beq_iff_eq, mapCharacter, if_pos ascii, toLower_eq_self small]

/-- A character that the ASCII form of a label may have beside those of the label. -/
def isFormCharacter (c : Char) : Bool :=
  Punycode.isDigitCharacter c || c == '-'

theorem ascii_of_isFormCharacter
    (h : isFormCharacter c) :
  c.toNat < 0x80
  := by
  simp only [isFormCharacter, Punycode.isDigitCharacter, Bool.or_eq_true, Bool.and_eq_true,
    decide_eq_true_eq, beq_iff_eq, Char.le_def, UInt32.le_iff_toNat_le, Char.toNat_val] at h
  have bounds : 'z'.toNat < 0x80 ∧ '9'.toNat < 0x80 ∧ '-'.toNat < 0x80 := by decide
  rcases h with (h | h) | rfl <;> omega

theorem plain_of_isFormCharacter
    (h : isFormCharacter c) :
  c ≠ '.' ∧ ¬('A'.toNat ≤ c.toNat ∧ c.toNat ≤ 'Z'.toNat) ∧ isForbidden c = false
  := by
  have all : ∀ n < 128, isFormCharacter (Char.ofNat n) →
      Char.ofNat n ≠ '.' ∧ ¬('A'.toNat ≤ (Char.ofNat n).toNat ∧ (Char.ofNat n).toNat ≤ 'Z'.toNat)
        ∧ isForbidden (Char.ofNat n) = false := by
    decide
  have holds := all c.toNat (ascii_of_isFormCharacter h)
  rw [Char.ofNat_toNat] at holds
  exact holds h

/-- A character of a label as it is written is an ASCII character of the label or one that the
ASCII form has anyway. -/
theorem of_mem_writeLabel
    (h : c ∈ writeLabel label) :
  (c ∈ label ∧ c.toNat < 0x80) ∨ isFormCharacter c
  := by
  rw [writeLabel] at h
  split at h
  · rename_i ascii
    rw [isAscii, List.all_eq_true] at ascii
    exact .inl ⟨h, by simpa using ascii c h⟩
  · have marks : ∀ c ∈ asciiMark, isFormCharacter c := by
      rw [← List.all_eq_true]
      decide
    rcases List.mem_append.mp h with mark | encoded
    · exact .inr (marks c mark)
    · rcases Punycode.of_mem_encode encoded with own | rfl | digit
      · exact .inl own
      · exact .inr (by decide)
      · right
        rw [isFormCharacter, digit, Bool.true_or]

theorem ascii_of_mem_writeLabel
    (h : c ∈ writeLabel label) :
  c.toNat < 0x80
  := by
  rcases of_mem_writeLabel h with ⟨-, ascii⟩ | form
  · exact ascii
  · exact ascii_of_isFormCharacter form

theorem IsSettled.isKept_of_mem_writeLabel
    (settled : IsSettled label) (h : c ∈ writeLabel label) :
  isKept c
  := by
  rcases of_mem_writeLabel h with ⟨own, -⟩ | form
  · exact settled.kept c own
  · exact isKept_of_ascii (ascii_of_isFormCharacter form) (plain_of_isFormCharacter form).2.1

theorem IsSettled.stop_not_mem_writeLabel
    (settled : IsSettled label) :
  '.' ∉ writeLabel label
  := by
  intro h
  rcases of_mem_writeLabel h with ⟨own, -⟩ | form
  · exact settled.apart own
  · exact (plain_of_isFormCharacter form).1 rfl

theorem isForbidden_of_mem_writeLabel
    (valid : isValid label) (h : c ∈ writeLabel label) :
  isForbidden c = false
  := by
  rcases of_mem_writeLabel h with ⟨own, -⟩ | form
  · simp only [isValid, Bool.and_eq_true, Bool.not_eq_true', List.any_eq_false, Bool.not_eq_true]
      at valid
    exact valid.1.1.1 c own
  · exact (plain_of_isFormCharacter form).2.2

/-- Only a form that is short enough is read. -/
theorem length_encode_le_of_readLabel
    {read : List Char} (beyond : ¬isAscii label) (h : readLabel (writeLabel label) = some read) :
  (Punycode.encode label).length ≤ longestForm
  := by
  have marked : asciiMark.isPrefixOf (asciiMark ++ Punycode.encode label) := by
    rw [List.isPrefixOf_iff_prefix]
    apply List.prefix_append
  rw [writeLabel, if_neg beyond, readLabel, if_pos marked, List.drop_left] at h
  obtain ⟨label', -, h⟩ := Option.bind_eq_some_iff.mp h
  split at h
  · rename_i proper
    exact proper.2.1
  · cases h

/-- A label is read from what it is written as. -/
theorem IsSettled.readLabel_writeLabel
    (settled : IsSettled label)
    (short : ¬isAscii label → (Punycode.encode label).length ≤ longestForm) :
  readLabel (writeLabel label) = some label
  := by
  rw [writeLabel]
  split
  · rw [readLabel, if_neg settled.unmarked]
  · rename_i beyond
    have marked : asciiMark.isPrefixOf (asciiMark ++ Punycode.encode label) := by
      rw [List.isPrefixOf_iff_prefix]
      apply List.prefix_append
    have form : isAscii (Punycode.encode label) := by
      rw [isAscii, List.all_eq_true]
      intro c hc
      rw [decide_eq_true_iff]
      have written : c ∈ writeLabel label := by
        rw [writeLabel, if_neg beyond]
        exact List.mem_append_right _ hc
      exact ascii_of_mem_writeLabel written
    have kept : label.all isKept := List.all_eq_true.mpr settled.kept
    rw [readLabel, if_pos marked, List.drop_left, readForm?, Punycode.decode_encode]
    simp only [Option.bind_eq_bind, Option.bind_some]
    rw [if_pos ⟨form, short beyond, trivial, beyond, kept, settled.composed, settled.unmarked,
      settled.apart⟩]

end

/-! ### Domain names that were written -/

theorem mapCharacters_of_kept
    {cs : List Char} (h : ∀ c ∈ cs, isKept c) :
  mapCharacters cs = some cs
  := by
  have images : cs.mapM mapCharacter = some (cs.map fun c => [c]) := by
    rw [mapM_eq_some_iff, List.forall₂_map_left_iff, List.forall₂_same]
    intro c hc
    exact beq_iff_eq.mp (h c hc)
  rw [mapCharacters, images, Option.map_some, ← List.flatMap_def, List.flatMap_singleton']

section

variable {cs : List Char} {labels : List (List Char)}

/-- A domain name as it is written is made of its labels as they are written. -/
theorem splitBy_written
    (h : readDomain cs = some labels) :
  splitBy '.' (joinBy '.' (labels.map writeLabel)) = labels.map writeLabel
  := by
  obtain ⟨mapped, -, reads, -⟩ := readDomain_eq_some_iff.mp h
  apply splitBy_joinBy
  · rw [ne_eq, List.map_eq_nil_iff]
    rintro rfl
    have length := (mapM_eq_some_iff.mp reads).length_eq
    exact splitBy_ne_nil _ (List.eq_nil_of_length_eq_zero length.symm)
  · intro part listed
    obtain ⟨label, hl, rfl⟩ := List.mem_map.mp listed
    exact (isSettled_of_readDomain h hl).stop_not_mem_writeLabel

/-- A character of a domain name as it is written separates labels or is one of a label. -/
theorem of_mem_written
    {c : Char} (hc : c ∈ joinBy '.' (labels.map writeLabel)) :
  c = '.' ∨ ∃ label ∈ labels, c ∈ writeLabel label
  := by
  rcases mem_joinBy hc with rfl | ⟨part, listed, hc⟩
  · exact .inl rfl
  · obtain ⟨label, hl, rfl⟩ := List.mem_map.mp listed
    exact .inr ⟨label, hl, hc⟩

/-- Reading a domain name as it is written comes to reading its labels as they are written. -/
theorem readDomain_written_eq_some_iff
    (h : readDomain cs = some labels) {read : List (List Char)} :
  readDomain (joinBy '.' (labels.map writeLabel)) = some read
    ↔ (labels.map writeLabel).mapM readLabel = some read ∧ (∀ label ∈ read, isValid label)
      ∧ (!read.any (·.any turnsRight) || read.all isUnambiguous)
  := by
  have stop : isKept '.' := isKept_of_ascii (by decide) (by decide)
  have plain : ∀ c ∈ joinBy '.' (labels.map writeLabel), c.toNat < 0x80 ∧ isKept c := by
    intro c hc
    rcases of_mem_written hc with rfl | ⟨label, hl, hc⟩
    · exact ⟨by decide, stop⟩
    · exact ⟨ascii_of_mem_writeLabel hc, (isSettled_of_readDomain h hl).isKept_of_mem_writeLabel hc⟩
  have mapped := mapCharacters_of_kept fun c hc => (plain c hc).2
  have composed := compose_of_ascii fun c hc => (plain c hc).1
  simp only [readDomain_eq_some_iff, mapped, Option.some.injEq, exists_eq_left', composed,
    splitBy_written h]

/-- Labels that were read are read from what they are written as. -/
theorem readDomain_written
    (h : readDomain cs = some labels)
    (short : ∀ label ∈ labels, ¬isAscii label → (Punycode.encode label).length ≤ longestForm) :
  readDomain (joinBy '.' (labels.map writeLabel)) = some labels
  := by
  obtain ⟨mapped, -, -, proper⟩ := readDomain_eq_some_iff.mp h
  rw [readDomain_written_eq_some_iff h, mapM_eq_some_iff, List.forall₂_map_right_iff,
    List.forall₂_same]
  refine ⟨?_, proper⟩
  intro label hl
  exact (isSettled_of_readDomain h hl).readLabel_writeLabel (short label hl)

/-- Labels that were read from what they are written as are written short enough. -/
theorem length_encode_le_of_readDomain_written
    (h : readDomain cs = some labels) {read : List (List Char)}
    (again : readDomain (joinBy '.' (labels.map writeLabel)) = some read) {label : List Char}
    (hl : label ∈ labels) (beyond : ¬isAscii label) :
  (Punycode.encode label).length ≤ longestForm
  := by
  obtain ⟨reads, -⟩ := (readDomain_written_eq_some_iff h).mp again
  obtain ⟨label', read⟩ := exists_of_mapM_eq_some reads (List.mem_map_of_mem hl)
  exact length_encode_le_of_readLabel beyond read

end

/-! ### Domain names of small letters, digits and hyphens -/

theorem combining_beyond :
  combining.IsBeyond
  := isBeyond_readRanges (by with_reducible exact rfl) (by decide +kernel)

/-- The characters that are written from right to left are beyond ASCII. -/
theorem directions_beyond :
  ∀ entry ∈ directions, [Direction.right, .arabic, .arabicNumber].contains entry.1 →
    entry.2.IsBeyond
  := by
  simp only [directions, List.forall_mem_cons]
  repeat' apply And.intro
  all_goals first
    | exact fun turns => absurd turns (by decide)
    | exact fun _ => isBeyond_readRanges (by with_reducible exact rfl) (by decide +kernel)
    | simp

theorem turnsRight_of_ascii
    {c : Char} (ascii : c.toNat < 0x80) :
  turnsRight c = false
  := by
  rw [← Bool.not_eq_true]
  intro turns
  rw [turnsRight, directionOf] at turns
  cases found : directions.find? (·.2.has c) with
  | none =>
    rw [found] at turns
    revert turns
    decide
  | some entry =>
    rw [found] at turns
    have beyond := directions_beyond entry (List.mem_of_find?_eq_some found) turns
    have has := List.find?_some found
    rw [Ranges.has_of_ascii beyond ascii] at has
    cases has

theorem joinersStandWell_of_ascii
    {cs : List Char} (ascii : ∀ c ∈ cs, c.toNat < 0x80) (before : List Char) :
  joinersStandWell before cs
  := by
  induction cs generalizing before with
  | nil => rfl
  | cons c cs ih =>
    have small := ascii c List.mem_cons_self
    have other : ∀ {d : Char}, 0x80 ≤ d.toNat → c ≠ d := by
      rintro d large rfl
      omega
    have apart : c ≠ nonJoiner := other (by decide)
    have joined : c ≠ joiner := other (by decide)
    rw [joinersStandWell, ih fun d hd => ascii d (List.mem_cons_of_mem _ hd)]
    simp [apart, joined]

section

variable {label : List Char} {labels : List (List Char)}

theorem isFormCharacter_of_isDigit
    {c : Char} (digit : isDigit c) :
  isFormCharacter c
  := by
  rw [isDigit] at digit
  rw [isFormCharacter, Punycode.isDigitCharacter, digit, Bool.or_true, Bool.true_or]

theorem isAscii_of_form
    (form : ∀ c ∈ label, isFormCharacter c) :
  isAscii label
  := by
  rw [isAscii, List.all_eq_true]
  intro c hc
  exact decide_eq_true (ascii_of_isFormCharacter (form c hc))

/-- Small letters, digits and hyphens make a label. -/
theorem isValid_of_form
    (form : ∀ c ∈ label, isFormCharacter c) :
  isValid label
  := by
  have ascii : ∀ c ∈ label, c.toNat < 0x80 := fun c hc => ascii_of_isFormCharacter (form c hc)
  have allowed : label.any isForbidden = false := by
    rw [List.any_eq_false]
    intro c hc
    rw [(plain_of_isFormCharacter (form c hc)).2.2]
    exact Bool.false_ne_true
  have starts : label.head?.any combining.has = false := by
    cases label with
    | nil => rfl
    | cons c label =>
      rw [List.head?_cons, Option.any_some]
      exact Ranges.has_of_ascii combining_beyond (ascii c List.mem_cons_self)
  rw [isValid, allowed, starts, joinersStandWell_of_ascii ascii, isAscii_of_form form]
  rfl

theorem not_isPrefixOf_digits
    (digits : ∀ c ∈ label, isDigit c) :
  ¬asciiMark.isPrefixOf label
  := by
  intro marked
  have starts := List.isPrefixOf_iff_prefix.mp marked
  have member : 'x' ∈ label := starts.subset (by decide)
  exact absurd (digits _ member) (by decide)

/-- A domain name of small letters, digits and hyphens is read as it is written, unless a label of
it has the mark of an ASCII form. -/
theorem domainToAscii_of_form
    (some_label : labels ≠ []) (form : ∀ label ∈ labels, ∀ c ∈ label, isFormCharacter c)
    (unmarked : ∀ label ∈ labels, ¬asciiMark.isPrefixOf label) :
  domainToAscii (joinBy '.' labels) = some (joinBy '.' labels)
  := by
  have stop : isKept '.' := isKept_of_ascii (by decide) (by decide)
  have plain : ∀ c ∈ joinBy '.' labels, c.toNat < 0x80 ∧ isKept c := by
    intro c hc
    rcases mem_joinBy hc with rfl | ⟨label, hl, hc⟩
    · exact ⟨by decide, stop⟩
    · have ascii := ascii_of_isFormCharacter (form label hl c hc)
      exact ⟨ascii, isKept_of_ascii ascii (plain_of_isFormCharacter (form label hl c hc)).2.1⟩
  have apart : ∀ label ∈ labels, '.' ∉ label := by
    intro label hl hc
    exact (plain_of_isFormCharacter (form label hl _ hc)).1 rfl
  have read : readDomain (joinBy '.' labels) = some labels := by
    rw [readDomain_eq_some_iff]
    refine ⟨_, mapCharacters_of_kept fun c hc => (plain c hc).2, ?_, ?_, ?_⟩
    · rw [compose_of_ascii fun c hc => (plain c hc).1, splitBy_joinBy some_label apart,
        mapM_eq_some_iff, List.forall₂_same]
      intro label hl
      rw [readLabel, if_neg (unmarked label hl)]
    · exact fun label hl => isValid_of_form (form label hl)
    · have straight : labels.any (·.any turnsRight) = false := by
        rw [List.any_eq_false]
        intro label hl
        rw [Bool.not_eq_true, List.any_eq_false]
        intro c hc
        rw [turnsRight_of_ascii (ascii_of_isFormCharacter (form label hl c hc))]
        exact Bool.false_ne_true
      rw [straight]
      rfl
  have written : labels.map writeLabel = labels := by
    have same : ∀ label ∈ labels, writeLabel label = id label := by
      intro label hl
      exact if_pos (isAscii_of_form (form label hl))
    rw [List.map_congr_left same, List.map_id]
  rw [domainToAscii, read, Option.map_some, written]

end

end OlapClient.Url.Domain
