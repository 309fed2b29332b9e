import OlapClient.Proofs.Url.Domain.Composition

/-!
# Mapping is done once

A character that stands for another one in a domain name stands for itself, and so do the
characters of which such characters are put together and what they make up.
-/

namespace OlapClient.Url.Domain

/-! ### Code points that are moved -/

/-- The number of the code points that a shift moves. -/
def Shift.count (s : Shift) : Nat :=
  (s.last - s.first) / s.step + 1

theorem Shift.of_image?
    {s : Shift} {n m : Nat} (h : s.image? n = some m) :
  ∃ i < s.count, n = s.first + i * s.step ∧ m = s.image + i * s.step
  := by
  rw [Shift.image?] at h
  split at h
  · rename_i moved
    obtain ⟨low, high, whole⟩ := moved
    cases h
    refine ⟨(n - s.first) / s.step, ?_, ?_, ?_⟩
    · rw [Shift.count, Nat.lt_succ_iff]
      apply Nat.div_le_div_right
      omega
    · rw [Nat.div_mul_cancel (Nat.dvd_of_mod_eq_zero whole)]
      omega
    · rw [Nat.div_mul_cancel (Nat.dvd_of_mod_eq_zero whole)]
  · cases h

/-- The code points that a shift moves. -/
def Shift.bits (s : Shift) : Nat :=
  strideBits s.step s.count <<< s.first

/-- The code points that a shift moves others to. -/
def Shift.imageBits (s : Shift) : Nat :=
  strideBits s.step s.count <<< s.image

theorem Shift.testBit_of_image?
    {s : Shift} {n m : Nat} (h : s.image? n = some m) :
  s.bits.testBit n ∧ s.imageBits.testBit m
  := by
  obtain ⟨i, small, rfl, rfl⟩ := Shift.of_image? h
  have bit := (testBit_strideBits s.step s.count (i * s.step)).mpr ⟨i, small, rfl⟩
  simp [Shift.bits, Shift.imageBits, Nat.testBit_shiftLeft, bit]

section

variable (shifts : List Shift) (images : List (Nat × List Char)) (ignored disallowed : Ranges)
  (composites : List Composite)

/-- The code points that do not stand for themselves. -/
def movedBits : Nat :=
  union (shifts.map Shift.bits) ||| codeBits (images.map (·.1)) ||| ignored.bits
    ||| disallowed.bits ||| span 'A'.toNat 'Z'.toNat

/-- The code points that others stand for, those that characters are put together from and those
that they make up. -/
def fixedBits : Nat :=
  union (shifts.map Shift.imageBits)
    ||| union (images.map fun image => codeBits (image.2.map Char.toNat))
    ||| union (composites.map fun k => codeBits [k.whole.toNat, k.first.toNat, k.second.toNat])
    ||| span leadBase (leadBase + leadCount - 1)
    ||| span vowelBase (vowelBase + vowelCount - 1)
    ||| span tailBase (tailBase + tailCount - 1)
    ||| span syllableBase (syllableBase + syllableCount - 1)
    ||| span 0 ('A'.toNat - 1) ||| span ('Z'.toNat + 1) 0x7F

variable {shifts images ignored disallowed composites}

theorem toLower_eq_self
    {c : Char} (small : ¬('A'.toNat ≤ c.toNat ∧ c.toNat ≤ 'Z'.toNat)) :
  c.toLower = c
  := by
  apply dif_neg
  simpa only [UInt32.le_iff_toNat_le, Char.toNat_val] using small

/-- No table has an entry for a code point that stands for itself. -/
theorem of_not_moved
    {c : Char} (h : ¬(movedBits shifts images ignored disallowed).testBit c.toNat) :
  (∀ s ∈ shifts, s.image? c.toNat = none) ∧ images.lookup c.toNat = none ∧ ignored.has c = false
    ∧ disallowed.has c = false ∧ c.toLower = c
  := by
  simp only [movedBits, Nat.testBit_or, Bool.or_eq_true, not_or, testBit_union, testBit_codeBits,
    testBit_span, Ranges.testBit_bits, Bool.not_eq_true] at h
  obtain ⟨⟨⟨⟨unshifted, unmapped⟩, used⟩, allowed⟩, small⟩ := h
  refine ⟨?_, ?_, used, allowed, toLower_eq_self small⟩
  · intro s hs
    rw [Option.eq_none_iff_forall_ne_some]
    intro m moved
    exact unshifted ⟨s.bits, List.mem_map_of_mem hs, (Shift.testBit_of_image? moved).1⟩
  · rw [List.lookup_eq_none_iff]
    intro image hi
    rw [bne_iff_ne]
    intro same
    exact unmapped (List.mem_map.mpr ⟨image, hi, same.symm⟩)

theorem fixed_of_image?
    {s : Shift} (hs : s ∈ shifts) {n m : Nat} (h : s.image? n = some m) :
  (fixedBits shifts images composites).testBit (Char.ofNat m).toNat
  := by
  by_cases valid : m.isValidChar
  · rw [toNat_ofNat_of_valid valid]
    have shifted : (union (shifts.map Shift.imageBits)).testBit m :=
      (testBit_union _ m).mpr
        ⟨s.imageBits, List.mem_map_of_mem hs, (Shift.testBit_of_image? h).2⟩
    simp only [fixedBits, Nat.testBit_or, shifted, Bool.true_or]
  · rw [Char.ofNat, dif_neg valid]
    simp only [fixedBits, Nat.testBit_or, Bool.or_eq_true, testBit_span]
    refine .inl (.inr ?_)
    decide

theorem fixed_of_mem_image
    {image : Nat × List Char} (hi : image ∈ images) {c : Char} (hc : c ∈ image.2) :
  (fixedBits shifts images composites).testBit c.toNat
  := by
  have mapped : (union (images.map fun image => codeBits (image.2.map Char.toNat))).testBit
      c.toNat := by
    rw [testBit_union]
    refine ⟨_, List.mem_map_of_mem hi, ?_⟩
    rw [testBit_codeBits]
    exact List.mem_map_of_mem hc
  simp only [fixedBits, Nat.testBit_or, mapped, Bool.or_true, Bool.true_or]

theorem fixed_of_composite
    {k : Composite} (hk : k ∈ composites) {c : Char} (hc : c ∈ [k.whole, k.first, k.second]) :
  (fixedBits shifts images composites).testBit c.toNat
  := by
  have paired : (union (composites.map fun k =>
      codeBits [k.whole.toNat, k.first.toNat, k.second.toNat])).testBit c.toNat := by
    rw [testBit_union]
    refine ⟨_, List.mem_map_of_mem hk, ?_⟩
    rw [testBit_codeBits]
    exact List.mem_map_of_mem hc
  simp only [fixedBits, Nat.testBit_or, paired, Bool.or_true, Bool.true_or]

/-- A character of syllables, or one of ASCII that is no capital letter. -/
theorem fixed_of_span
    {n : Nat}
    (h : (leadBase ≤ n ∧ n < leadBase + leadCount) ∨ (vowelBase ≤ n ∧ n < vowelBase + vowelCount)
      ∨ (tailBase ≤ n ∧ n < tailBase + tailCount)
      ∨ (syllableBase ≤ n ∧ n < syllableBase + syllableCount)
      ∨ n < 'A'.toNat ∨ 'Z'.toNat < n ∧ n < 0x80) :
  (fixedBits shifts images composites).testBit n
  := by
  have first : 'A'.toNat = 65 := rfl
  simp only [fixedBits, Nat.testBit_or, Bool.or_eq_true, testBit_span]
  omega

/-- What characters are mapped to stands for itself, as does what they are put together from and
what they make up. -/
def MapsOnce (shifts : List Shift) (images : List (Nat × List Char)) (ignored disallowed : Ranges)
    (composites : List Composite) : Prop :=
  movedBits shifts images ignored disallowed &&& fixedBits shifts images composites = 0

instance : Decidable (MapsOnce shifts images ignored disallowed composites) :=
  inferInstanceAs (Decidable (_ = 0))

theorem MapsOnce.not_moved
    (h : MapsOnce shifts images ignored disallowed composites) {n : Nat}
    (fixed : (fixedBits shifts images composites).testBit n) :
  ¬(movedBits shifts images ignored disallowed).testBit n
  := by
  intro moved
  have both : (movedBits shifts images ignored disallowed
      &&& fixedBits shifts images composites).testBit n := by
    rw [Nat.testBit_and, moved, fixed, Bool.and_self]
  rw [h, Nat.zero_testBit] at both
  exact Bool.false_ne_true both

end

set_option maxRecDepth 1000000 in
theorem mapsOnce :
  MapsOnce shifts images ignored disallowed composites
  := by
  refine of_written shifts shiftsIn rfl (by with_reducible exact rfl) ?_
  refine of_written_in_pieces images imagesIn rfl
    (by repeat' first | with_reducible exact rfl | constructor) ?_
  refine of_written ignored rangesIn rfl (by with_reducible exact rfl) ?_
  refine of_written_in_pieces disallowed rangesIn rfl
    (by repeat' first | with_reducible exact rfl | constructor) ?_
  refine of_written_in_pieces composites compositesIn rfl
    (by repeat' first | with_reducible exact rfl | constructor) ?_
  decide +kernel

/-! ### What characters stand for -/

/-- A character stands for itself if it must. -/
theorem isKept_of_fixed
    {c : Char} (h : (fixedBits shifts images composites).testBit c.toNat) :
  isKept c
  := by
  obtain ⟨unshifted, unmapped, used, allowed, small⟩ := of_not_moved (mapsOnce.not_moved h)
  have still : shifts.findSome? (·.image? c.toNat) = none := List.findSome?_eq_none_iff.mpr unshifted
  rw [isKept, beq_iff_eq, mapCharacter, imageOf?, still, unmapped, used, allowed, small]
  simp

theorem mem_of_lookup
    {n : Nat} {image : List Char} {images : List (Nat × List Char)}
    (h : images.lookup n = some image) :
  (n, image) ∈ images
  := by
  obtain ⟨before, after, rfl, -⟩ := List.lookup_eq_some_iff.mp h
  simp

theorem isKept_toLower
    {c : Char} (ascii : c.toNat < 0x80) :
  isKept c.toLower
  := by
  have lowered : ∀ n < 0x80, (Char.ofNat n).toLower.toNat < 'A'.toNat
      ∨ 'Z'.toNat < (Char.ofNat n).toLower.toNat ∧ (Char.ofNat n).toLower.toNat < 0x80 := by
    decide
  have small := lowered c.toNat ascii
  rw [Char.ofNat_toNat] at small
  apply isKept_of_fixed
  apply fixed_of_span
  omega

/-- What a character stands for stands for itself. -/
theorem isKept_of_mem_mapCharacter
    {c d : Char} {image : List Char} (h : mapCharacter c = some image) (hd : d ∈ image) :
  isKept d
  := by
  have itself : image = [c] → isKept d := by
    rintro rfl
    rw [List.mem_singleton] at hd
    rw [hd, isKept, h, beq_self_eq_true]
  rw [mapCharacter] at h
  split at h
  · rename_i ascii
    cases h
    rw [List.mem_singleton] at hd
    rw [hd]
    exact isKept_toLower ascii
  · rcases Option.or_eq_some_iff.mp h with found | ⟨-, alone⟩
    · rw [imageOf?, Option.or_eq_some_iff] at found
      rcases found with found | ⟨-, found⟩
      · obtain ⟨n, moved, alone⟩ := Option.map_eq_some_iff.mp found
        obtain ⟨s, hs, image⟩ := List.exists_of_findSome?_eq_some moved
        rw [← alone, List.mem_singleton] at hd
        rw [hd]
        exact isKept_of_fixed (fixed_of_image? hs image)
      · exact isKept_of_fixed (fixed_of_mem_image (mem_of_lookup found) hd)
    · split_ifs at alone
      · cases alone
        cases hd
      · cases alone
        exact itself rfl

theorem IsTabled.isKept
    {c : Char} (h : IsTabled c) :
  isKept c
  := by
  have jamo : ∀ n < 0x1200, (Char.ofNat n).toNat = n := by
    intro n small
    exact toNat_ofNat_of_valid (.inl (by omega))
  apply isKept_of_fixed
  rcases h with ⟨k, hk, hc⟩ | ⟨i, hi, rfl⟩ | ⟨i, hi, rfl⟩ | ⟨i, hi, rfl⟩ | syllable
  · exact fixed_of_composite hk hc
  · rw [jamo _ (by simp only [leadBase, leadCount] at *; omega)]
    exact fixed_of_span (by omega)
  · rw [jamo _ (by simp only [vowelBase, vowelCount] at *; omega)]
    exact fixed_of_span (by omega)
  · rw [jamo _ (by simp only [tailBase, tailCount] at *; omega)]
    exact fixed_of_span (by omega)
  · exact fixed_of_span (by omega)

end OlapClient.Url.Domain
