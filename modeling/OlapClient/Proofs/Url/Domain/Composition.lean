import Mathlib.Data.List.Chain
import OlapClient.Proofs.Url.Domain.Tables

/-!
# Composition is done once

Composing a text that has been composed changes nothing.  The reason is that the parts of what two
characters make up are those of the first, followed by the second: while a text is put together, its
characters taken apart and put in order again are the ones that were added so far.

Composing does not go across a full stop, so that the labels of a domain name are composed each on
its own.
-/

namespace OlapClient.Url.Domain

/-! ### The table of composites -/

/-- The wholes of a table ascend, and taking a whole apart ends after two steps at characters that
are neither wholes nor syllables. -/
def ComposesOnce (composites : List Composite) : Prop :=
  let wholes := codeBits (composites.map (·.whole.toNat))
  let deep := codeBits ((composites.filter (wholes.testBit ·.first.toNat)).map (·.whole.toNat))
  (composites.map (·.whole.toNat)).IsChain (· < ·)
    ∧ ∀ k ∈ composites,
      ¬wholes.testBit k.second.toNat ∧ ¬deep.testBit k.first.toNat
        ∧ [k.whole, k.first, k.second].all (fun c => (syllableParts? c).isNone)
        ∧ (k.whole.toNat < leadBase ∨ tailBase + tailCount ≤ k.whole.toNat)
        ∧ 0x80 ≤ k.whole.toNat ∧ 0x80 ≤ k.second.toNat ∧ k.first ≠ '.'

instance {composites : List Composite} : Decidable (ComposesOnce composites) :=
  inferInstanceAs (Decidable (_ ∧ _))

set_option maxRecDepth 1000000 in
theorem composesOnce :
  ComposesOnce composites
  := by
  refine of_written_in_pieces composites compositesIn rfl
    (by repeat' first | with_reducible exact rfl | constructor) ?_
  decide +kernel

theorem find?_whole
    {ks : List Composite} (ascending : (ks.map (·.whole.toNat)).Pairwise (· < ·)) {k : Composite}
    (hk : k ∈ ks) :
  ks.find? (·.whole == k.whole) = some k
  := by
  induction ks with
  | nil => cases hk
  | cons j ks ih =>
    rw [List.map_cons, List.pairwise_cons] at ascending
    rcases List.mem_cons.mp hk with rfl | hk
    · apply List.find?_cons_of_pos
      apply beq_self_eq_true
    · have less := ascending.1 _ (List.mem_map_of_mem hk)
      rw [List.find?_cons_of_neg, ih ascending.2 hk]
      rw [beq_iff_eq]
      intro same
      rw [same] at less
      exact Nat.lt_irrefl _ less

namespace ComposesOnce

variable {ks : List Composite} (h : ComposesOnce ks) {i j k : Composite}
include h

theorem find?_eq (hk : k ∈ ks) :
  ks.find? (·.whole == k.whole) = some k
  := find?_whole (List.isChain_iff_pairwise.mp h.1) hk

/-- The second character of a composite is not put together. -/
theorem whole_ne_second (hk : k ∈ ks) (hj : j ∈ ks) :
  j.whole ≠ k.second
  := by
  intro same
  apply (h.2 k hk).1
  rw [testBit_codeBits, ← same]
  exact List.mem_map_of_mem hj

/-- The first character of a composite that is itself a first character is not put together. -/
theorem whole_ne_first (hk : k ∈ ks) (hj : j ∈ ks) (hi : i ∈ ks) (first : j.whole = k.first) :
  i.whole ≠ j.first
  := by
  intro same
  apply (h.2 k hk).2.1
  rw [testBit_codeBits, ← first]
  apply List.mem_map_of_mem
  rw [List.mem_filter, testBit_codeBits, ← same]
  exact ⟨hj, List.mem_map_of_mem hi⟩

/-- Neither a composite nor what it is put together from is a syllable. -/
theorem syllableParts?_eq_none
    (hk : k ∈ ks) {c : Char} (hc : c ∈ [k.whole, k.first, k.second]) :
  syllableParts? c = none
  := by
  obtain ⟨-, -, simple, -⟩ := h.2 k hk
  rw [← Option.isNone_iff_eq_none]
  exact List.all_eq_true.mp simple c hc

end ComposesOnce

/-! ### Characters taken apart -/

/-- A character is the whole of a composite. -/
def IsWhole (c : Char) : Prop :=
  ∃ k ∈ composites, k.whole = c

theorem takeApart_of_not_isWhole
    {c : Char} (h : ¬IsWhole c) (depth : Nat) :
  takeApart depth c = [c]
  := by
  cases depth with
  | zero => rfl
  | succ depth =>
    have none : composites.find? (·.whole == c) = none := by
      rw [List.find?_eq_none]
      intro k hk
      rw [beq_iff_eq]
      intro same
      exact h ⟨k, hk, same⟩
    rw [takeApart, none]
    rfl

theorem takeApart_whole
    {k : Composite} (hk : k ∈ composites) (depth : Nat) :
  takeApart (depth + 1) k.whole = takeApart depth k.first ++ [k.second]
  := by
  rw [takeApart, composesOnce.find?_eq hk]
  rfl

/-- Two steps take every character apart. -/
theorem takeApart_add_two (depth : Nat) (c : Char) :
  takeApart (depth + 2) c = takeApart 2 c
  := by
  by_cases whole : IsWhole c
  · obtain ⟨k, hk, rfl⟩ := whole
    rw [takeApart_whole hk, takeApart_whole hk]
    by_cases first : IsWhole k.first
    · obtain ⟨j, hj, first⟩ := first
      have last : ¬IsWhole j.first := by
        rintro ⟨i, hi, same⟩
        exact composesOnce.whole_ne_first hk hj hi first same
      rw [← first, takeApart_whole hj, takeApart_whole hj, takeApart_of_not_isWhole last,
        takeApart_of_not_isWhole last]
    · rw [takeApart_of_not_isWhole first, takeApart_of_not_isWhole first]
  · rw [takeApart_of_not_isWhole whole, takeApart_of_not_isWhole whole]

theorem not_isWhole_of_ascii
    {c : Char} (ascii : c.toNat < 0x80) :
  ¬IsWhole c
  := by
  rintro ⟨k, hk, rfl⟩
  obtain ⟨-, -, -, -, beyond, -⟩ := composesOnce.2 k hk
  omega

theorem parts_of_ascii
    {c : Char} (ascii : c.toNat < 0x80) :
  parts c = [c]
  := if_pos ascii

/-- A character that is no syllable has the parts of the composite that it is. -/
theorem parts_eq_takeApart
    {c : Char} (h : syllableParts? c = none) :
  parts c = takeApart 2 c
  := by
  rw [parts]
  split
  · rename_i ascii
    rw [takeApart_of_not_isWhole (not_isWhole_of_ascii ascii)]
  · rw [h]
    apply takeApart_add_two

theorem parts_of_not_isWhole
    {c : Char} (simple : syllableParts? c = none) (h : ¬IsWhole c) :
  parts c = [c]
  := by
  rw [parts_eq_takeApart simple, takeApart_of_not_isWhole h]

theorem parts_second
    {k : Composite} (hk : k ∈ composites) :
  parts k.second = [k.second]
  := by
  apply parts_of_not_isWhole (composesOnce.syllableParts?_eq_none hk (by simp))
  rintro ⟨j, hj, same⟩
  exact composesOnce.whole_ne_second hk hj same

/-- A composite has the parts of its first character, and the second one. -/
theorem parts_whole
    {k : Composite} (hk : k ∈ composites) :
  parts k.whole = parts k.first ++ [k.second]
  := by
  have simple : ∀ c ∈ [k.whole, k.first, k.second], syllableParts? c = none := fun _ =>
    composesOnce.syllableParts?_eq_none hk
  rw [parts_eq_takeApart (simple _ (by simp)), parts_eq_takeApart (simple k.first (by simp)),
    ← takeApart_add_two 1 k.whole, takeApart_whole hk]

/-- A part of the first character of a composite has no other parts. -/
theorem parts_of_mem_parts_first
    {k : Composite} (hk : k ∈ composites) {p : Char} (hp : p ∈ parts k.first) :
  parts p = [p]
  := by
  have simple : ∀ {i}, i ∈ composites → syllableParts? i.first = none := by
    intro i hi
    exact composesOnce.syllableParts?_eq_none hi (by simp)
  have last : ∀ {i}, i ∈ composites → ¬IsWhole i.first → p ∈ parts i.first → parts p = [p] := by
    intro i hi whole hp
    have alone := parts_of_not_isWhole (simple hi) whole
    rw [alone, List.mem_singleton] at hp
    rwa [hp]
  by_cases first : IsWhole k.first
  · obtain ⟨j, hj, first⟩ := first
    rw [← first, parts_whole hj, List.mem_append, List.mem_singleton] at hp
    rcases hp with hp | rfl
    · apply last hj _ hp
      rintro ⟨i, hi, same⟩
      exact composesOnce.whole_ne_first hk hj hi first same
    · apply parts_second hj
  · exact last hk first hp

/-! ### Syllables -/

/-- A consonant or vowel of a syllable is not taken apart. -/
theorem parts_jamo
    {n : Nat} (low : leadBase ≤ n) (high : n < tailBase + tailCount) :
  parts (Char.ofNat n) = [Char.ofNat n]
  := by
  have code : (Char.ofNat n).toNat = n := by
    apply toNat_ofNat_of_valid
    simp only [tailBase, tailCount] at high
    exact .inl (by omega)
  apply parts_of_not_isWhole
  · rw [syllableParts?, if_neg]
    rw [code]
    simp only [tailBase, tailCount, syllableBase] at high ⊢
    omega
  · rintro ⟨k, hk, same⟩
    obtain ⟨-, -, -, outside, -⟩ := composesOnce.2 k hk
    rw [same, code] at outside
    omega

/-- A syllable is taken apart to its consonants and its vowel. -/
theorem parts_syllable
    {n : Nat} (h : n < syllableCount) :
  parts (Char.ofNat (syllableBase + n))
    = Char.ofNat (leadBase + n / (vowelCount * tailCount))
      :: Char.ofNat (vowelBase + n % (vowelCount * tailCount) / tailCount)
      :: (if n % tailCount = 0 then [] else [Char.ofNat (tailBase + n % tailCount)])
  := by
  have code : (Char.ofNat (syllableBase + n)).toNat = syllableBase + n := by
    apply toNat_ofNat_of_valid
    simp only [syllableBase, syllableCount, leadCount, vowelCount, tailCount] at h ⊢
    exact .inl (by omega)
  have beyond : ¬syllableBase + n < 0x80 := by
    simp only [syllableBase]
    omega
  rw [parts, syllableParts?, code, if_neg beyond, Nat.add_sub_cancel_left, if_pos ⟨by omega, h⟩]

theorem ofNat_offset {c : Char} {base : Nat} (le : base ≤ c.toNat) :
  Char.ofNat (base + (c.toNat - base)) = c
  := by
  rw [Nat.add_sub_cancel' le, Char.ofNat_toNat]

/-- A syllable has the parts of its first character, and the second one. -/
theorem parts_of_syllableOf?
    {a b w : Char} (h : syllableOf? a b = some w) :
  parts w = parts a ++ [b]
  := by
  rw [syllableOf?] at h
  split_ifs at h with open_ closed
  · obtain rfl := Option.some.inj h
    obtain ⟨low, lead, least, vowel⟩ := open_
    have first := ofNat_offset low
    have second := ofNat_offset least
    generalize a.toNat - leadBase = l at *
    generalize b.toNat - vowelBase = v at *
    have single : parts a = [a] := by
      rw [← first]
      apply parts_jamo (by omega)
      simp only [leadBase, leadCount, tailBase, tailCount] at *
      omega
    simp only [leadCount, vowelCount] at lead vowel
    rw [parts_syllable (by simp only [syllableCount, leadCount, vowelCount, tailCount]; omega), single]
    have at_lead : (l * vowelCount + v) * tailCount / (vowelCount * tailCount) = l := by
      simp only [vowelCount, tailCount]
      omega
    have at_vowel : (l * vowelCount + v) * tailCount % (vowelCount * tailCount) / tailCount = v := by
      simp only [vowelCount, tailCount]
      omega
    rw [at_lead, at_vowel, Nat.mul_mod_left, if_pos rfl, first, second]
    rfl
  · obtain rfl := Option.some.inj h
    obtain ⟨low, within, no_tail, some_tail, tail⟩ := closed
    have first := ofNat_offset low
    have second := ofNat_offset some_tail.le
    have whole : a.toNat + (b.toNat - tailBase)
        = syllableBase + (a.toNat - syllableBase + (b.toNat - tailBase)) := by
      omega
    have pos : b.toNat - tailBase ≠ 0 := by omega
    rw [whole]
    generalize a.toNat - syllableBase = s at *
    generalize b.toNat - tailBase = t at *
    have room : s + t < syllableCount := by
      simp only [syllableCount, leadCount, vowelCount, tailCount] at *
      omega
    have at_lead : (s + t) / (vowelCount * tailCount) = s / (vowelCount * tailCount) := by
      simp only [vowelCount, tailCount] at *
      omega
    have at_vowel : (s + t) % (vowelCount * tailCount) / tailCount
        = s % (vowelCount * tailCount) / tailCount := by
      simp only [vowelCount, tailCount] at *
      omega
    have at_tail : (s + t) % tailCount = t := by
      simp only [tailCount] at *
      omega
    have open_ : parts a = parts (Char.ofNat (syllableBase + s)) := by rw [first]
    rw [open_, parts_syllable room, parts_syllable within, at_lead, at_vowel, at_tail, if_neg pos,
      if_pos no_tail, second]
    rfl

/-- What two characters make up has the parts of the first, and the second one. -/
theorem parts_of_pairUp?
    {a b w : Char} (h : pairUp? a b = some w) :
  parts w = parts a ++ [b]
  := by
  rcases Option.or_eq_some_iff.mp h with syllable | ⟨-, pair⟩
  · exact parts_of_syllableOf? syllable
  · obtain ⟨k, found, rfl⟩ := Option.map_eq_some_iff.mp pair
    have both := List.find?_some found
    rw [Bool.and_eq_true, beq_iff_eq, beq_iff_eq] at both
    rw [parts_whole (List.mem_of_find?_eq_some found), both.1, both.2]

theorem exists_syllable
    {c : Char} (h : (syllableParts? c).isSome) :
  ∃ n < syllableCount, c = Char.ofNat (syllableBase + n)
  := by
  rw [syllableParts?] at h
  split_ifs at h with within
  · exact ⟨_, within.2, (ofNat_offset within.1).symm⟩
  · cases h

/-- A part has no other parts. -/
theorem parts_of_mem_parts
    {c p : Char} (h : p ∈ parts c) :
  parts p = [p]
  := by
  by_cases syllable : (syllableParts? c).isSome
  · obtain ⟨n, within, rfl⟩ := exists_syllable syllable
    rw [parts_syllable within] at h
    simp only [syllableCount, leadCount, vowelCount, tailCount] at within
    have vowels : leadBase ≤ vowelBase := by decide
    have tails : leadBase ≤ tailBase := by decide
    rcases List.mem_cons.mp h with rfl | h
    · apply parts_jamo (Nat.le_add_right _ _)
      simp only [leadBase, vowelCount, tailCount, tailBase]
      omega
    rcases List.mem_cons.mp h with rfl | h
    · apply parts_jamo (vowels.trans (Nat.le_add_right _ _))
      simp only [vowelBase, vowelCount, tailCount, tailBase]
      omega
    · split_ifs at h
      · cases h
      · rw [List.mem_singleton] at h
        rw [h]
        apply parts_jamo (tails.trans (Nat.le_add_right _ _))
        simp only [tailCount]
        omega
  · rw [Option.not_isSome_iff_eq_none] at syllable
    by_cases whole : IsWhole c
    · obtain ⟨k, hk, rfl⟩ := whole
      rw [parts_whole hk, List.mem_append, List.mem_singleton] at h
      rcases h with h | rfl
      · exact parts_of_mem_parts_first hk h
      · exact parts_second hk
    · have alone := parts_of_not_isWhole syllable whole
      rw [alone, List.mem_singleton] at h
      rwa [h]

/-! ### Marks in order -/

section

variable {c d m : Char} {cs placed : List Char}

theorem place_of_class_zero (h : combiningClass c = 0) :
  place c placed = c :: placed
  := by
  cases placed with
  | nil => rfl
  | cons d placed => rw [place, if_neg (by simp [h])]

theorem mem_place :
  d ∈ place c placed ↔ d = c ∨ d ∈ placed
  := by
  induction placed with
  | nil => simp [place]
  | cons e placed ih =>
    rw [place]
    split
    · rw [List.mem_cons, ih, List.mem_cons, or_left_comm]
    · rw [List.mem_cons]

/-- A mark goes before one of a higher class. -/
theorem place_of_lt (hc : combiningClass c ≠ 0) (less : combiningClass c < combiningClass d) :
  place c (d :: placed) = d :: place c placed
  := by
  rw [place, if_pos ⟨hc, less⟩]

/-- A character stays behind one that has no higher class. -/
theorem place_of_le (le : combiningClass d ≤ combiningClass c) :
  place c (d :: placed) = c :: d :: placed
  := by
  rw [place, if_neg (by omega)]

/-- Marks of different classes are placed one after the other in any order. -/
theorem place_comm
    (hc : combiningClass c ≠ 0) (hd : combiningClass d ≠ 0)
    (ne : combiningClass c ≠ combiningClass d) :
  place c (place d placed) = place d (place c placed)
  := by
  wlog less : combiningClass c < combiningClass d generalizing c d
  · exact (this hd hc ne.symm (by omega)).symm
  induction placed with
  | nil =>
    rw [place, place_of_lt hc less, place, place_of_le less.le]
  | cons e placed ih =>
    by_cases high : combiningClass d < combiningClass e
    · rw [place_of_lt hd high, place_of_lt hc (less.trans high), place_of_lt hc (less.trans high),
        place_of_lt hd high, ih]
    · rw [place_of_le (by omega), place_of_lt hc less]
      by_cases middle : combiningClass c < combiningClass e
      · rw [place_of_lt hc middle, place_of_le (by omega)]
      · rw [place_of_le (by omega), place_of_le less.le]

/-- Characters are placed one after the other. -/
def placeAll (placed cs : List Char) : List Char :=
  cs.foldl (fun placed c => place c placed) placed

theorem placeAll_cons :
  placeAll placed (c :: cs) = placeAll (place c placed) cs
  := rfl

theorem placeAll_append {ds : List Char} :
  placeAll placed (cs ++ ds) = placeAll (placeAll placed cs) ds
  := List.foldl_append

/-- A mark may as well be placed after marks of other classes. -/
theorem placeAll_place
    (hc : combiningClass c ≠ 0)
    (marks : ∀ m ∈ cs, combiningClass m ≠ 0 ∧ combiningClass m ≠ combiningClass c) :
  placeAll (place c placed) cs = place c (placeAll placed cs)
  := by
  induction cs generalizing placed with
  | nil => rfl
  | cons m cs ih =>
    obtain ⟨hm, ne⟩ := marks m List.mem_cons_self
    have later := @ih (place m placed) fun m hm => marks m (List.mem_cons_of_mem _ hm)
    rw [← place_comm hm hc ne] at later
    exact later

theorem mem_placeAll :
  c ∈ placeAll placed cs ↔ c ∈ placed ∨ c ∈ cs
  := by
  induction cs generalizing placed with
  | nil => simp [placeAll]
  | cons d cs ih =>
    have later := @ih (place d placed)
    rw [mem_place] at later
    rw [List.mem_cons, ← or_assoc, or_comm (a := c ∈ placed)]
    exact later

/-- The marks of a text, latest first, are in order: placing the characters changes nothing. -/
def IsArranged : List Char → Prop
  | [] => True
  | c :: placed => place c placed = c :: placed ∧ IsArranged placed

theorem IsArranged.of_append {later : List Char} (h : IsArranged (later ++ placed)) :
  IsArranged placed
  := by
  induction later with
  | nil => exact h
  | cons c later ih => exact ih h.2

/-- Placing a character keeps marks in order. -/
theorem IsArranged.place (h : IsArranged placed) :
  IsArranged (Domain.place c placed)
  := by
  induction placed with
  | nil =>
    rw [Domain.place]
    exact ⟨rfl, trivial⟩
  | cons d placed ih =>
    rcases Nat.lt_or_ge (combiningClass c) (combiningClass d) with less | le
    · rcases Nat.eq_zero_or_pos (combiningClass c) with zero | pos
      · rw [place_of_class_zero zero]
        exact ⟨place_of_class_zero zero, h⟩
      · rw [place_of_lt pos.ne' less]
        refine ⟨?_, ih h.2⟩
        rw [← place_comm pos.ne' (by omega) (by omega), h.1, place_of_lt pos.ne' less]
    · rw [place_of_le le]
      exact ⟨place_of_le le, h⟩

theorem isArranged_placeAll (h : IsArranged placed) :
  IsArranged (placeAll placed cs)
  := by
  induction cs generalizing placed with
  | nil => exact h
  | cons c cs ih => exact ih h.place

end

/-! ### Putting together -/

/-- What adding a character can do: it goes together with the starter, takes its place or is one
more mark. -/
theorem Composing.add_cases (s : Composing) (c : Char) :
  (∃ a w, s.starter = some a ∧ pairUp? a c = some w
      ∧ (∀ m ∈ s.marks.head?, combiningClass m < combiningClass c)
      ∧ s.add c = ⟨s.done, some w, s.marks⟩)
    ∨ (combiningClass c = 0 ∧ s.add c = ⟨s.all, some c, []⟩)
    ∨ (combiningClass c ≠ 0 ∧ s.add c = ⟨s.done, s.starter, c :: s.marks⟩)
  := by
  rw [Composing.add]
  split
  · rename_i w found
    split_ifs at found with near
    obtain ⟨a, starter, pair⟩ := Option.bind_eq_some_iff.mp found
    refine .inl ⟨a, w, starter, pair, ?_, rfl⟩
    intro m hm
    rw [Option.mem_def] at hm
    rw [hm] at near
    simpa using near
  · split_ifs with zero
    · exact .inr (.inl ⟨zero, rfl⟩)
    · exact .inr (.inr ⟨zero, rfl⟩)

/-- What was put together so far has the parts that were added, latest first, and the marks after
the starter are those that did not go together with it. -/
structure Retraces (added : List Char) (s : Composing) : Prop where
  parts : placeAll [] (s.all.reverse.flatMap Domain.parts) = added
  marks : ∀ m ∈ s.marks, combiningClass m ≠ 0 ∧ Domain.parts m = [m]
  descending : s.marks.Pairwise fun m n => combiningClass n ≤ combiningClass m
  below : ∀ m ∈ s.marks, ∃ last ∈ added.head?, combiningClass m ≤ combiningClass last

theorem flatMap_parts_of_settled
    {cs : List Char} (settled : ∀ c ∈ cs, parts c = [c]) :
  cs.flatMap parts = cs
  := by
  induction cs with
  | nil => rfl
  | cons c cs ih =>
    rw [List.flatMap_cons, settled c List.mem_cons_self,
      ih fun d hd => settled d (List.mem_cons_of_mem _ hd)]
    rfl

section

variable {added : List Char} {s : Composing} {c : Char}

theorem Retraces.start :
  Retraces [] .start
  := by
  constructor <;> simp [Composing.start, Composing.all, placeAll]

/-- Adding a character that goes together with the starter. -/
theorem Retraces.pair (h : Retraces added s) (placed : place c added = c :: added)
    {a w : Char} (starter : s.starter = some a) (made : pairUp? a c = some w)
    (near : ∀ m ∈ s.marks.head?, combiningClass m < combiningClass c) :
  Retraces (c :: added) ⟨s.done, some w, s.marks⟩
  := by
  have lower : ∀ m ∈ s.marks, combiningClass m < combiningClass c := by
    intro m hm
    have sorted := h.descending
    cases marks : s.marks with
    | nil =>
      rw [marks] at hm
      cases hm
    | cons top rest =>
      rw [marks] at hm near sorted
      have top_lower := near top rfl
      rcases List.mem_cons.mp hm with rfl | hm
      · exact top_lower
      · have := (List.pairwise_cons.mp sorted).1 m hm
        omega
  have settled : ∀ m ∈ s.marks.reverse, combiningClass m ≠ 0 ∧ Domain.parts m = [m]
      ∧ combiningClass m < combiningClass c := by
    intro m hm
    rw [List.mem_reverse] at hm
    exact ⟨(h.marks m hm).1, (h.marks m hm).2, lower m hm⟩
  have alone := flatMap_parts_of_settled fun m hm => (settled m hm).2.1
  have swap : ∀ placed, placeAll (place c placed) s.marks.reverse
      = place c (placeAll placed s.marks.reverse) := by
    intro placed
    rcases Nat.eq_zero_or_pos (combiningClass c) with zero | pos
    · have none : s.marks = [] := by
        rw [List.eq_nil_iff_forall_not_mem]
        intro m hm
        have := lower m hm
        omega
      rw [none]
      rfl
    · apply placeAll_place pos.ne'
      intro m hm
      have := settled m hm
      exact ⟨this.1, by omega⟩
  constructor
  · have before := h.parts
    simp only [Composing.all, starter, Option.toList_some, List.reverse_append, List.flatMap_append,
      List.reverse_singleton, List.flatMap_singleton, alone, placeAll_append] at before ⊢
    rw [parts_of_pairUp? made, placeAll_append]
    exact (swap _).trans ((congrArg _ before).trans placed)
  · exact h.marks
  · exact h.descending
  · intro m hm
    exact ⟨c, rfl, (lower m hm).le⟩

/-- Adding a character that is kept apart. -/
theorem Retraces.apart
    (h : Retraces added s) (placed : place c added = c :: added) (settled : Domain.parts c = [c])
    {t : Composing} (all : t.all = c :: s.all) :
  placeAll [] (t.all.reverse.flatMap Domain.parts) = c :: added
  := by
  rw [all, List.reverse_cons, List.flatMap_append, placeAll_append, h.parts, List.flatMap_singleton,
    settled]
  exact placed

/-- Adding a character keeps track of the parts. -/
theorem Retraces.add
    (h : Retraces added s) (placed : place c added = c :: added) (settled : Domain.parts c = [c]) :
  Retraces (c :: added) (s.add c)
  := by
  rcases s.add_cases c with ⟨a, w, starter, made, near, eq⟩ | ⟨zero, eq⟩ | ⟨nonzero, eq⟩
  · rw [eq]
    exact h.pair placed starter made near
  · rw [eq]
    exact ⟨h.apart placed settled rfl, by simp, by simp, by simp⟩
  · have reached : ∀ m ∈ s.marks, combiningClass m ≤ combiningClass c := by
      intro m hm
      obtain ⟨last, head, le⟩ := h.below m hm
      obtain ⟨before, rfl⟩ := List.head?_eq_some_iff.mp head
      have least : ¬combiningClass c < combiningClass last := by
        intro less
        rw [place_of_lt nonzero less, List.cons.injEq] at placed
        rw [placed.1] at less
        exact Nat.lt_irrefl _ less
      omega
    rw [eq]
    constructor
    · exact h.apart placed settled rfl
    · intro m hm
      rcases List.mem_cons.mp hm with rfl | hm
      · exact ⟨nonzero, settled⟩
      · exact h.marks m hm
    · exact List.pairwise_cons.mpr ⟨reached, h.descending⟩
    · intro m hm
      rcases List.mem_cons.mp hm with rfl | hm
      · exact ⟨m, rfl, Nat.le_refl _⟩
      · exact ⟨c, rfl, reached m hm⟩

/-- Adding the characters of a text in order keeps track of the parts. -/
theorem Retraces.foldl
    {cs : List Char} (h : Retraces added s) (arranged : IsArranged (cs.reverse ++ added))
    (settled : ∀ c ∈ cs, Domain.parts c = [c]) :
  Retraces (cs.reverse ++ added) (cs.foldl Composing.add s)
  := by
  induction cs generalizing added s with
  | nil => exact h
  | cons c cs ih =>
    rw [List.reverse_cons, List.append_assoc, List.singleton_append] at arranged ⊢
    have next := arranged.of_append
    apply ih (h.add next.1 (settled c List.mem_cons_self)) arranged
    intro d hd
    apply settled d (List.mem_cons_of_mem _ hd)

end

theorem arrange_eq (cs : List Char) :
  arrange cs = (placeAll [] cs).reverse
  := rfl

theorem mem_arrange
    {c : Char} {cs : List Char} :
  c ∈ arrange cs ↔ c ∈ cs
  := by
  rw [arrange_eq, List.mem_reverse, mem_placeAll]
  simp

/-- The parts of a composed text, put in order, are those of the text. -/
theorem arrange_parts_compose (cs : List Char) :
  arrange ((compose cs).flatMap parts) = arrange (cs.flatMap parts)
  := by
  have settled : ∀ c ∈ arrange (cs.flatMap parts), parts c = [c] := by
    intro c hc
    rw [mem_arrange, List.mem_flatMap] at hc
    obtain ⟨d, -, part⟩ := hc
    exact parts_of_mem_parts part
  have arranged : IsArranged ((arrange (cs.flatMap parts)).reverse ++ []) := by
    rw [arrange_eq, List.reverse_reverse, List.append_nil]
    exact isArranged_placeAll trivial
  have retraced := (Retraces.start.foldl arranged settled).parts
  rw [arrange_eq, compose, retraced, List.append_nil, List.reverse_reverse]

/-- Composing a text that has been composed changes nothing. -/
theorem compose_compose (cs : List Char) :
  compose (compose cs) = compose cs
  := by
  rw [compose, arrange_parts_compose, ← compose]

/-! ### Characters of a composed text -/

/-- The characters that are put together from others, and what these are. -/
def IsTabled (c : Char) : Prop :=
  (∃ k ∈ composites, c ∈ [k.whole, k.first, k.second])
    ∨ (∃ i < leadCount, c = Char.ofNat (leadBase + i))
    ∨ (∃ i < vowelCount, c = Char.ofNat (vowelBase + i))
    ∨ (∃ i < tailCount, c = Char.ofNat (tailBase + i))
    ∨ (syllableBase ≤ c.toNat ∧ c.toNat < syllableBase + syllableCount)

theorem isTabled_syllable
    {n : Nat} (h : n < syllableCount) :
  IsTabled (Char.ofNat (syllableBase + n))
  := by
  have code : (Char.ofNat (syllableBase + n)).toNat = syllableBase + n := by
    apply toNat_ofNat_of_valid
    simp only [syllableBase, syllableCount, leadCount, vowelCount, tailCount] at h ⊢
    exact .inl (by omega)
  refine .inr (.inr (.inr (.inr ?_)))
  rw [code]
  omega

theorem mem_takeApart
    {depth : Nat} {c p : Char} (h : p ∈ takeApart depth c) :
  p = c ∨ IsTabled p
  := by
  induction depth generalizing c with
  | zero => exact .inl (List.mem_singleton.mp h)
  | succ depth ih =>
    by_cases whole : IsWhole c
    · obtain ⟨k, hk, rfl⟩ := whole
      rw [takeApart_whole hk, List.mem_append, List.mem_singleton] at h
      rcases h with h | rfl
      · rcases ih h with rfl | tabled
        · exact .inr (.inl ⟨k, hk, by simp⟩)
        · exact .inr tabled
      · exact .inr (.inl ⟨k, hk, by simp⟩)
    · rw [takeApart_of_not_isWhole whole, List.mem_singleton] at h
      exact .inl h

theorem mem_parts
    {c p : Char} (h : p ∈ parts c) :
  p = c ∨ IsTabled p
  := by
  by_cases syllable : (syllableParts? c).isSome
  · obtain ⟨n, within, rfl⟩ := exists_syllable syllable
    rw [parts_syllable within] at h
    right
    simp only [syllableCount, leadCount, vowelCount, tailCount] at within
    rcases List.mem_cons.mp h with rfl | h
    · refine .inr (.inl ⟨_, ?_, rfl⟩)
      simp only [leadCount, vowelCount, tailCount]
      omega
    rcases List.mem_cons.mp h with rfl | h
    · refine .inr (.inr (.inl ⟨_, ?_, rfl⟩))
      simp only [vowelCount, tailCount]
      omega
    · split_ifs at h
      · cases h
      · rw [List.mem_singleton] at h
        refine .inr (.inr (.inr (.inl ⟨_, ?_, h⟩)))
        simp only [tailCount]
        omega
  · rw [Option.not_isSome_iff_eq_none] at syllable
    rw [parts_eq_takeApart syllable] at h
    exact mem_takeApart h

theorem isTabled_of_pairUp?
    {a b w : Char} (h : pairUp? a b = some w) :
  IsTabled w
  := by
  rcases Option.or_eq_some_iff.mp h with syllable | ⟨-, pair⟩
  · rw [syllableOf?] at syllable
    split_ifs at syllable with open_ closed
    · obtain rfl := Option.some.inj syllable
      apply isTabled_syllable
      simp only [syllableCount, leadCount, vowelCount, tailCount] at open_ ⊢
      omega
    · obtain rfl := Option.some.inj syllable
      obtain ⟨low, within, no_tail, some_tail, tail⟩ := closed
      have whole : a.toNat + (b.toNat - tailBase)
          = syllableBase + (a.toNat - syllableBase + (b.toNat - tailBase)) := by
        omega
      rw [whole]
      apply isTabled_syllable
      simp only [syllableCount, leadCount, vowelCount, tailCount] at within no_tail tail ⊢
      omega
  · obtain ⟨k, found, rfl⟩ := Option.map_eq_some_iff.mp pair
    exact .inl ⟨k, List.mem_of_find?_eq_some found, by simp⟩

theorem mem_all_add
    {s : Composing} {c d : Char} (h : d ∈ (s.add c).all) :
  d ∈ s.all ∨ d = c ∨ IsTabled d
  := by
  rcases s.add_cases c with ⟨a, w, starter, made, -, eq⟩ | ⟨-, eq⟩ | ⟨-, eq⟩
  · rw [eq] at h
    simp only [Composing.all, Option.toList_some, List.mem_append, List.mem_singleton] at h ⊢
    rcases h with (h | rfl) | h
    · exact .inl (.inl (.inl h))
    · exact .inr (.inr (isTabled_of_pairUp? made))
    · exact .inl (.inr h)
  · rw [eq] at h
    rcases List.mem_cons.mp h with rfl | h
    · exact .inr (.inl rfl)
    · exact .inl h
  · rw [eq] at h
    rcases List.mem_cons.mp h with rfl | h
    · exact .inr (.inl rfl)
    · exact .inl h

/-- A character of a composed text is one of the text or belongs to the tables. -/
theorem mem_compose
    {c : Char} {cs : List Char} (h : c ∈ compose cs) :
  c ∈ cs ∨ IsTabled c
  := by
  have from_added : ∀ {cs : List Char} {s : Composing}, c ∈ (cs.foldl Composing.add s).all →
      c ∈ s.all ∨ c ∈ cs ∨ IsTabled c := by
    intro cs
    induction cs with
    | nil => exact .inl
    | cons d cs ih =>
      intro s h
      rcases ih h with h | h | h
      · rcases mem_all_add h with h | rfl | h
        · exact .inl h
        · exact .inr (.inl List.mem_cons_self)
        · exact .inr (.inr h)
      · exact .inr (.inl (List.mem_cons_of_mem _ h))
      · exact .inr (.inr h)
  rw [compose, List.mem_reverse] at h
  rcases from_added h with h | h | h
  · cases h
  · rw [mem_arrange, List.mem_flatMap] at h
    obtain ⟨d, hd, part⟩ := h
    rcases mem_parts part with rfl | tabled
    · exact .inl hd
    · exact .inr tabled
  · exact .inr h

/-! ### Characters of ASCII -/

/-- The intervals hold code points beyond ASCII only. -/
def Ranges.IsBeyond (ranges : Ranges) : Prop :=
  ∀ range ∈ ranges, 0x80 ≤ range.1

instance {ranges : Ranges} : Decidable ranges.IsBeyond :=
  inferInstanceAs (Decidable (∀ range ∈ ranges, 0x80 ≤ range.1))

theorem Ranges.has_of_ascii
    {ranges : Ranges} (beyond : ranges.IsBeyond) {c : Char} (ascii : c.toNat < 0x80) :
  ranges.has c = false
  := by
  rw [Ranges.has, List.any_eq_false]
  intro range hr
  have := beyond range hr
  simp
  omega

theorem isBeyond_readRanges
    {s : String} {cs : List Char} (chars : s = String.ofList cs) (h : (rangesIn cs).IsBeyond) :
  (readRanges s).IsBeyond
  := of_written (readRanges s) rangesIn rfl chars h

theorem classes_beyond :
  ∀ entry ∈ classes, entry.2.IsBeyond
  := by
  simp only [classes, List.forall_mem_cons]
  repeat' apply And.intro
  all_goals first
    | exact isBeyond_readRanges (by with_reducible exact rfl) (by decide +kernel)
    | simp

theorem combiningClass_of_ascii
    {c : Char} (ascii : c.toNat < 0x80) :
  combiningClass c = 0
  := by
  have none : classes.find? (·.2.has c) = none := by
    rw [List.find?_eq_none]
    intro entry he
    rw [Bool.not_eq_true]
    exact Ranges.has_of_ascii (classes_beyond entry he) ascii
  rw [combiningClass, none]
  rfl

theorem pairUp?_of_ascii
    {a c : Char} (ascii : c.toNat < 0x80) :
  pairUp? a c = none
  := by
  have open_ : syllableOf? a c = none := by
    rw [syllableOf?, if_neg, if_neg]
    · simp only [tailBase]
      omega
    · simp only [vowelBase]
      omega
  have apart : composites.find? (fun k => k.first == a && k.second == c) = none := by
    rw [List.find?_eq_none]
    intro k hk
    obtain ⟨-, -, -, -, -, beyond, -⟩ := composesOnce.2 k hk
    rw [Bool.and_eq_true, beq_iff_eq, beq_iff_eq]
    rintro ⟨-, rfl⟩
    omega
  rw [pairUp?, open_, apart]
  rfl

/-- Nothing goes together with a full stop before it. -/
theorem pairUp?_stop (c : Char) :
  pairUp? '.' c = none
  := by
  have open_ : syllableOf? '.' c = none := by
    rw [syllableOf?, if_neg, if_neg]
    · simp only [syllableBase]
      rintro ⟨low, -⟩
      revert low
      decide
    · simp only [leadBase]
      rintro ⟨low, -⟩
      revert low
      decide
  have apart : composites.find? (fun k => k.first == '.' && k.second == c) = none := by
    rw [List.find?_eq_none]
    intro k hk
    obtain ⟨-, -, -, -, -, -, first⟩ := composesOnce.2 k hk
    simp [first]
  rw [pairUp?, open_, apart]
  rfl

theorem Composing.add_of_ascii
    (s : Composing) {c : Char} (ascii : c.toNat < 0x80) :
  s.add c = ⟨s.all, some c, []⟩
  := by
  rcases s.add_cases c with ⟨a, w, -, made, -⟩ | ⟨-, eq⟩ | ⟨nonzero, -⟩
  · rw [pairUp?_of_ascii ascii] at made
    cases made
  · exact eq
  · exact absurd (combiningClass_of_ascii ascii) nonzero

theorem arrange_of_ascii
    {cs : List Char} (ascii : ∀ c ∈ cs, c.toNat < 0x80) :
  arrange cs = cs
  := by
  have placed : ∀ placed, placeAll placed cs = cs.reverse ++ placed := by
    induction cs with
    | nil => exact fun _ => rfl
    | cons c cs ih =>
      intro placed
      rw [placeAll_cons, place_of_class_zero (combiningClass_of_ascii (ascii c List.mem_cons_self)),
        ih fun d hd => ascii d (List.mem_cons_of_mem _ hd)]
      simp
  rw [arrange_eq, placed, List.append_nil, List.reverse_reverse]

/-- A text in ASCII is composed. -/
theorem compose_of_ascii
    {cs : List Char} (ascii : ∀ c ∈ cs, c.toNat < 0x80) :
  compose cs = cs
  := by
  have added : ∀ s : Composing, (cs.foldl Composing.add s).all = cs.reverse ++ s.all := by
    induction cs with
    | nil => exact fun _ => rfl
    | cons c cs ih =>
      intro s
      rw [List.foldl_cons, ih (fun d hd => ascii d (List.mem_cons_of_mem _ hd)),
        Composing.add_of_ascii s (ascii c List.mem_cons_self)]
      simp [Composing.all]
  have settled := flatMap_parts_of_settled fun c hc => parts_of_ascii (ascii c hc)
  rw [compose, settled, arrange_of_ascii ascii, added]
  simp [Composing.start, Composing.all]

/-! ### Composing does not go across a full stop -/

theorem place_append_stop (c : Char) (later before : List Char) :
  place c (later ++ '.' :: before) = place c later ++ '.' :: before
  := by
  have stop : combiningClass '.' = 0 := combiningClass_of_ascii (by decide)
  induction later with
  | nil =>
    rw [List.nil_append, place_of_le (by omega), place]
    rfl
  | cons d later ih =>
    rw [List.cons_append]
    rcases Nat.lt_or_ge (combiningClass c) (combiningClass d) with less | le
    · rcases Nat.eq_zero_or_pos (combiningClass c) with zero | pos
      · rw [place_of_class_zero zero, place_of_class_zero zero]
        rfl
      · rw [place_of_lt pos.ne' less, place_of_lt pos.ne' less, ih]
        rfl
    · rw [place_of_le le, place_of_le le]
      rfl

theorem placeAll_append_stop (later before cs : List Char) :
  placeAll (later ++ '.' :: before) cs = placeAll later cs ++ '.' :: before
  := by
  induction cs generalizing later with
  | nil => rfl
  | cons c cs ih => rw [placeAll_cons, placeAll_cons, place_append_stop, ih]

theorem arrange_append_stop (cs ds : List Char) :
  arrange (cs ++ '.' :: ds) = arrange cs ++ '.' :: arrange ds
  := by
  have stop : combiningClass '.' = 0 := combiningClass_of_ascii (by decide)
  have later := placeAll_append_stop [] (placeAll [] cs) ds
  rw [List.nil_append] at later
  rw [arrange_eq, placeAll_append, placeAll_cons, place_of_class_zero stop, later, arrange_eq,
    arrange_eq]
  simp

/-- Two texts are put together alike, except that one has a full stop and more before it. -/
structure Follows (before : List Char) (s t : Composing) : Prop where
  all : t.all = s.all ++ '.' :: before
  marks : t.marks = s.marks
  starter : t.starter = s.starter ∨ (s.starter = none ∧ t.starter = some '.')

theorem Follows.add
    {before : List Char} {s t : Composing} (h : Follows before s t) (c : Char) :
  Follows before (s.add c) (t.add c)
  := by
  have pair : t.starter.bind (pairUp? · c) = s.starter.bind (pairUp? · c) := by
    rcases h.starter with same | ⟨none, stop⟩
    · rw [same]
    · rw [none, stop, Option.bind_some, pairUp?_stop]
      rfl
  have all := h.all
  rw [Composing.add, Composing.add, pair, h.marks]
  split
  · rename_i w found
    split_ifs at found
    obtain ⟨a, starter, -⟩ := Option.bind_eq_some_iff.mp found
    have same : t.starter = some a := by
      rcases h.starter with same | ⟨none, -⟩
      · rw [same, starter]
      · rw [none] at starter
        cases starter
    refine ⟨?_, rfl, .inl rfl⟩
    simpa [Composing.all, h.marks, starter, same] using all
  · split_ifs
    · refine ⟨?_, rfl, .inl rfl⟩
      simpa [Composing.all, h.marks] using all
    · refine ⟨?_, rfl, h.starter⟩
      simpa [Composing.all, h.marks] using all

theorem Follows.foldl
    {before : List Char} {s t : Composing} (h : Follows before s t) (cs : List Char) :
  Follows before (cs.foldl Composing.add s) (cs.foldl Composing.add t)
  := by
  induction cs generalizing s t with
  | nil => exact h
  | cons c cs ih => exact ih (h.add c)

/-- What stands before a full stop and what stands after it are composed each on its own. -/
theorem compose_append_stop (cs ds : List Char) :
  compose (cs ++ '.' :: ds) = compose cs ++ '.' :: compose ds
  := by
  have single : parts '.' = ['.'] := parts_of_ascii (by decide)
  have follows : ∀ s : Composing, Follows s.all .start (s.add '.') := by
    intro s
    rw [Composing.add_of_ascii s (by decide)]
    exact ⟨rfl, rfl, .inr ⟨rfl, rfl⟩⟩
  rw [compose, List.flatMap_append, List.flatMap_cons, single, List.singleton_append,
    arrange_append_stop, List.foldl_append, List.foldl_cons, ((follows _).foldl _).all]
  simp [compose]

theorem isTabled_ne_stop
    {c : Char} (h : IsTabled c) :
  c ≠ '.'
  := by
  have jamo : ∀ n, leadBase ≤ n → n < 0x1200 → Char.ofNat n ≠ '.' := by
    intro n low high same
    have code := toNat_ofNat_of_valid (n := n) (.inl (by omega))
    rw [same] at code
    simp only [leadBase] at low
    have stop : '.'.toNat < 0x80 := by decide
    omega
  have stop : '.'.toNat < 0x80 := by decide
  rcases h with ⟨k, hk, hc⟩ | ⟨i, hi, rfl⟩ | ⟨i, hi, rfl⟩ | ⟨i, hi, rfl⟩ | ⟨reached, -⟩
  · obtain ⟨-, -, -, -, whole, second, first⟩ := composesOnce.2 k hk
    simp only [List.mem_cons, List.not_mem_nil, or_false] at hc
    rcases hc with rfl | rfl | rfl
    · intro same
      rw [same] at whole
      omega
    · exact first
    · intro same
      rw [same] at second
      omega
  · apply jamo <;> simp only [leadBase, leadCount] at * <;> omega
  · apply jamo <;> simp only [leadBase, vowelBase, vowelCount] at * <;> omega
  · apply jamo <;> simp only [leadBase, tailBase, tailCount] at * <;> omega
  · rintro rfl
    simp only [syllableBase] at reached
    omega

theorem stop_not_mem_compose
    {cs : List Char} (h : '.' ∉ cs) :
  '.' ∉ compose cs
  := by
  intro member
  rcases mem_compose member with member | tabled
  · exact h member
  · exact isTabled_ne_stop tabled rfl

end OlapClient.Url.Domain
