import Mathlib.Tactic.Common
import Mathlib.Tactic.Ring
import OlapClient.Url.Punycode

/-!
# Labels read from their ASCII form

Reading retraces writing.  While the characters of a label are written in the order of their code
points, `Tracks` holds between what is written so far and the state in which a reader of it is: the
reader has the characters that were written in their places, and the distance that is being counted
leads from the reader's place to the place that is being looked at.
-/

namespace OlapClient.Url.Punycode

/-! ### Distances -/

theorem digitValue?_digitCharacter {d : Nat} (small : d < 36) :
  digitValue? (digitCharacter d) = some d
  := by
  have all : ∀ d < 36, digitValue? (digitCharacter d) = some d := by decide
  apply all d small

theorem threshold_pos (k bias : Nat) :
  1 ≤ threshold k bias
  := Nat.le_max_left _ _

theorem threshold_le (k bias : Nat) :
  threshold k bias ≤ 26
  := by
  rw [threshold]
  omega

/-- A distance is read from its digits. -/
theorem readDistance_distanceDigits (bias k weight i q : Nat) (rest : List Char) :
  readDistance bias k weight i (distanceDigits bias k q ++ rest) = some (i + q * weight, rest)
  := by
  have low := threshold_le k bias
  fun_induction distanceDigits bias k q generalizing weight i with
  | case1 k q t last =>
    have small : q < 36 := by omega
    rw [List.singleton_append, readDistance, digitValue?_digitCharacter small]
    simp only [Option.bind_eq_bind, Option.bind_some]
    rw [if_pos last]
  | case2 k q t more ih =>
    have pos := threshold_pos k bias
    have remainder : (q - t) % (36 - t) < 36 - t := Nat.mod_lt _ (by omega)
    have small : t + (q - t) % (36 - t) < 36 := by omega
    rw [List.cons_append, readDistance, digitValue?_digitCharacter small]
    simp only [Option.bind_eq_bind, Option.bind_some]
    rw [if_neg (by omega), ih _ _ (threshold_le _ _)]
    have whole : q = t + (q - t) % (36 - t) + (36 - t) * ((q - t) / (36 - t)) := by
      have division := Nat.mod_add_div (q - t) (36 - t)
      omega
    congr 2
    generalize (q - t) % (36 - t) = r at whole
    generalize (q - t) / (36 - t) = d at whole
    rw [whole]
    ring

theorem distanceDigits_ne_nil (bias k q : Nat) :
  distanceDigits bias k q ≠ []
  := by
  rw [distanceDigits]
  split <;> simp

/-- A character that writes a digit. -/
def isDigitCharacter (c : Char) : Bool :=
  ('a' ≤ c && c ≤ 'z') || ('0' ≤ c && c ≤ '9')

theorem isDigitCharacter_of_mem_distanceDigits {bias k q : Nat} {c : Char}
    (h : c ∈ distanceDigits bias k q) :
  isDigitCharacter c
  := by
  have all : ∀ d < 36, isDigitCharacter (digitCharacter d) := by decide
  have low := threshold_le k bias
  fun_induction distanceDigits bias k q with
  | case1 k q t last =>
    rw [List.mem_singleton] at h
    rw [h]
    apply all q (by omega)
  | case2 k q t more ih =>
    rcases List.mem_cons.mp h with rfl | h
    · have remainder : (q - t) % (36 - t) < 36 - t := Nat.mod_lt _ (by omega)
      apply all _ (by omega)
    · apply ih h (threshold_le _ _)

/-! ### One character read -/

/-- A character is put in its place after its distance has been read. -/
theorem readPoints_of_readDistance
    {label cs rest : List Char} {point i bias j : Nat} (some_digit : cs ≠ [])
    (h : readDistance bias 36 1 i cs = some (j, rest))
    (valid : (point + j / (label.length + 1)).isValidChar) :
  readPoints label point i bias cs
    = readPoints
        (label.take (j % (label.length + 1))
          ++ Char.ofNat (point + j / (label.length + 1)) :: label.drop (j % (label.length + 1)))
        (point + j / (label.length + 1)) (j % (label.length + 1) + 1)
        (adapt (j - i) (label.length + 1) (i == 0)) rest
  := by
  obtain ⟨c, digits, rfl⟩ := List.exists_cons_of_ne_nil some_digit
  rw [readPoints]
  split
  · rename_i none
    rw [h] at none
    cases none
  · rename_i found
    rw [h] at found
    cases found
    rw [if_pos valid]

/-! ### What a reader knows of what is written -/

/-- The characters of a label that are in place when those before a place have been looked at for
a code point. -/
def placed (point : Nat) (before after : List Char) : List Char :=
  before.filter (·.toNat ≤ point) ++ after.filter (·.toNat < point)

/-- The place of the next character of a code point among those that are in place. -/
def position (point : Nat) (before : List Char) : Nat :=
  (before.filter (·.toNat ≤ point)).length

/-- A reader of what has been written has some characters in place, and the distance that is counted
leads from where it is to a place for a code point. -/
def Tracks (ascii start : List Char) (w : Writing) (label : List Char) (point place : Nat) : Prop :=
  ∃ n i digits, w.written = start ++ digits
    ∧ (∀ c ∈ digits, isDigitCharacter c)
    ∧ (∀ rest, readPoints ascii 0x80 0 72 (digits ++ rest) = readPoints label n i w.bias rest)
    ∧ w.handled = label.length ∧ ascii.length ≤ w.handled ∧ (i = 0 ↔ w.handled = ascii.length)
    ∧ n ≤ point ∧ w.delta + i = (point - n) * (label.length + 1) + place

section

variable {ascii start : List Char} {w : Writing} {point : Nat} {before after : List Char} {c : Char}

/-- A character of a lower code point is passed. -/
theorem Tracks.pass_lower
    (h : Tracks ascii start w (placed point before (c :: after)) point (position point before))
    (lower : c.toNat < point) :
  Tracks ascii start { w with delta := w.delta + 1 } (placed point (before ++ [c]) after) point
    (position point (before ++ [c]))
  := by
  obtain ⟨n, i, digits, written, each, reads, handled, begun, first, reached, distance⟩ := h
  have le : c.toNat ≤ point := by omega
  have in_place : placed point (before ++ [c]) after = placed point before (c :: after) := by
    simp [placed, lower, le]
  have next : position point (before ++ [c]) = position point before + 1 := by
    simp [position, le]
  rw [in_place, next]
  exact ⟨n, i, digits, written, each, reads, handled, begun, first, reached, by simp only; omega⟩

/-- A character of a higher code point is passed over. -/
theorem Tracks.pass_higher
    (h : Tracks ascii start w (placed point before (c :: after)) point (position point before))
    (higher : point < c.toNat) :
  Tracks ascii start w (placed point (before ++ [c]) after) point (position point (before ++ [c]))
  := by
  have not_le : ¬ c.toNat ≤ point := by omega
  have not_lt : ¬ c.toNat < point := by omega
  have in_place : placed point (before ++ [c]) after = placed point before (c :: after) := by
    simp [placed, not_le, not_lt]
  have next : position point (before ++ [c]) = position point before := by
    simp [position, not_le]
  rwa [in_place, next]

/-- A character of the code point is written, and the reader puts it in place. -/
theorem Tracks.write
    (h : Tracks ascii start w (placed point before (c :: after)) point (position point before))
    (same : c.toNat = point) :
  Tracks ascii start
    ⟨w.written ++ distanceDigits w.bias 36 w.delta, 0,
      adapt w.delta (w.handled + 1) (w.handled == ascii.length), w.handled + 1⟩
    (placed point (before ++ [c]) after) point (position point (before ++ [c]))
  := by
  obtain ⟨n, i, digits, written, each, reads, handled, begun, first, reached, distance⟩ := h
  have before_eq : placed point before (c :: after)
      = before.filter (·.toNat ≤ point) ++ after.filter (·.toNat < point) := by
    simp [placed, same]
  have after_eq : placed point (before ++ [c]) after
      = before.filter (·.toNat ≤ point) ++ c :: after.filter (·.toNat < point) := by
    simp [placed, same]
  have next : position point (before ++ [c]) = position point before + 1 := by
    simp [position, same]
  rw [before_eq] at reads handled distance
  rw [after_eq, next]
  generalize after.filter (·.toNat < point) = later at *
  have place : position point before = (before.filter (·.toNat ≤ point)).length := rfl
  generalize before.filter (·.toNat ≤ point) = front at *
  have length : (front ++ later).length = front.length + later.length := List.length_append
  have total : i + w.delta * 1
      = front.length + ((front ++ later).length + 1) * (point - n) := by
    rw [Nat.mul_one, Nat.mul_comm, ← place]
    omega
  have quotient : (i + w.delta * 1) / ((front ++ later).length + 1) = point - n := by
    rw [total, Nat.add_mul_div_left _ _ (by omega), Nat.div_eq_of_lt (by omega), Nat.zero_add]
  have remainder : (i + w.delta * 1) % ((front ++ later).length + 1) = front.length := by
    rw [total, Nat.add_mul_mod_self_left, Nat.mod_eq_of_lt (by omega)]
  have code : n + (point - n) = point := by omega
  have char : Char.ofNat point = c := by rw [← same, Char.ofNat_toNat]
  have valid : point.isValidChar := by
    rw [← same]
    exact c.valid
  refine ⟨point, front.length + 1, digits ++ distanceDigits w.bias 36 w.delta, ?_, ?_, ?_, ?_, ?_,
    ?_, Nat.le_refl _, ?_⟩
  · simp [written]
  · intro d hd
    rcases List.mem_append.mp hd with hd | hd
    · exact each d hd
    · exact isDigitCharacter_of_mem_distanceDigits hd
  · intro rest
    have read := @readPoints_of_readDistance _ _ _ n _ _ _
      (by simp [distanceDigits_ne_nil]) (readDistance_distanceDigits w.bias 36 1 i w.delta rest)
      (by rw [quotient, code]; exact valid)
    have once : (i == 0) = (w.handled == ascii.length) := by
      rw [Bool.eq_iff_iff, beq_iff_eq, beq_iff_eq, first]
    have gap : i + w.delta * 1 - i = w.delta := by omega
    rw [quotient, remainder, code, char, List.take_left, List.drop_left, once, gap, ← handled] at read
    rw [List.append_assoc, reads, read]
  · simp only [List.length_append, List.length_cons, handled]
    omega
  · simp only
    omega
  · simp only [Nat.add_eq_zero_iff, Nat.one_ne_zero, and_false, false_iff]
    omega
  · simp [place]

end

/-- Looking at a character leads from its place to the next one. -/
theorem Tracks.look
    {ascii start : List Char} {w : Writing} {point : Nat} {before after : List Char} {c : Char}
    (h : Tracks ascii start w (placed point before (c :: after)) point (position point before)) :
  Tracks ascii start (w.look ascii.length point c) (placed point (before ++ [c]) after) point
    (position point (before ++ [c]))
  := by
  rw [Writing.look]
  split
  · rename_i lower
    exact h.pass_lower lower
  · split
    · rename_i same
      exact h.write same
    · exact h.pass_higher (by omega)

/-! ### All characters of a code point, and all code points -/

/-- Looking at the characters of a label leads through all their places. -/
theorem Tracks.look_all
    {ascii start : List Char} {w : Writing} {point : Nat} {before after : List Char}
    (h : Tracks ascii start w (placed point before after) point (position point before)) :
  Tracks ascii start (after.foldl (Writing.look ascii.length point) w)
    (placed point (before ++ after) []) point (position point (before ++ after))
  := by
  induction after generalizing w before with
  | nil => simpa using h
  | cons c after ih =>
    have later := ih h.look
    rwa [List.append_assoc, List.singleton_append] at later

/-- The distance to a later code point is counted in whole rounds over the label. -/
theorem Tracks.ahead
    {ascii start : List Char} {w : Writing} {label : List Char} {next point : Nat}
    (h : Tracks ascii start w label next 0) (le : next ≤ point) :
  Tracks ascii start { w with delta := w.delta + (point - next) * (w.handled + 1) } label point 0
  := by
  obtain ⟨n, i, digits, written, each, reads, handled, begun, first, reached, distance⟩ := h
  have rounds : (point - n) * (label.length + 1)
      = (point - next) * (label.length + 1) + (next - n) * (label.length + 1) := by
    rw [← Nat.add_mul]
    congr 1
    omega
  refine ⟨n, i, digits, written, each, reads, handled, begun, first, by omega, ?_⟩
  simp only
  rw [rounds, handled]
  omega

/-- The characters of one code point are written, after those of lower ones. -/
theorem Tracks.point
    {ascii start label : List Char} {w : Writing} {point : Nat}
    (h : Tracks ascii start w (label.filter (·.toNat < point)) point 0) :
  let w := label.foldl (Writing.look ascii.length point) w
  Tracks ascii start { w with delta := w.delta + 1 } (label.filter (·.toNat < point + 1))
    (point + 1) 0
  := by
  have none_yet : Tracks ascii start w (placed point [] label) point (position point []) := h
  have through := none_yet.look_all
  simp only [List.nil_append, placed, position, List.filter_nil, List.append_nil] at through
  have bound : ∀ c : Char, decide (c.toNat ≤ point) = decide (c.toNat < point + 1) := by
    intro c
    simp only [Nat.lt_succ_iff]
  simp only [bound] at through
  obtain ⟨n, i, digits, written, each, reads, handled, begun, first, reached, distance⟩ := through
  refine ⟨n, i, digits, written, each, reads, handled, begun, first, by omega, ?_⟩
  have round : point + 1 - n = point - n + 1 := by omega
  simp only
  rw [round, Nat.add_mul]
  omega

/-- The characters of all code points from one on are written. -/
theorem Tracks.run
    {ascii start label : List Char} {w : Writing} {next : Nat} {points : List Nat}
    (h : Tracks ascii start w (label.filter (·.toNat < next)) next 0)
    (ascending : points.Pairwise (· < ·)) (from_next : ∀ p ∈ points, next ≤ p)
    (all : ∀ c ∈ label, next ≤ c.toNat → c.toNat ∈ points) :
  ∃ last, Tracks ascii start (Writing.run label ascii.length next w points) label last 0
  := by
  induction points generalizing w next with
  | nil =>
    have lower : label.filter (·.toNat < next) = label := by
      rw [List.filter_eq_self]
      intro c hc
      have none := all c hc
      simp only [List.not_mem_nil, imp_false] at none
      simpa using none
    rw [lower] at h
    exact ⟨next, h⟩
  | cons point points ih =>
    rw [List.pairwise_cons] at ascending
    have le := from_next point List.mem_cons_self
    have between : label.filter (·.toNat < next) = label.filter (·.toNat < point) := by
      apply List.filter_congr
      intro c hc
      rw [decide_eq_decide]
      constructor
      · intro lower
        omega
      · intro lower
        by_contra reached
        rcases List.mem_cons.mp (all c hc (by omega)) with same | later
        · omega
        · have := ascending.1 _ later
          omega
    rw [between] at h
    apply ih (h.ahead le).point ascending.2
    · intro p hp
      apply ascending.1 p hp
    · intro c hc reached
      rcases List.mem_cons.mp (all c hc (by omega)) with same | later
      · omega
      · exact later

/-! ### Labels -/

/-- What is left of ascending numbers without repetitions ascends at each step. -/
theorem pairwise_eraseDups {points : List Nat} (ascending : points.Pairwise (· ≤ ·)) :
  points.eraseDups.Pairwise (· < ·)
  := by
  match points with
  | [] => simp
  | point :: points =>
    rw [List.pairwise_cons] at ascending
    rw [List.eraseDups_cons, List.pairwise_cons]
    constructor
    · intro p hp
      rw [List.mem_eraseDups, List.mem_filter, Bool.not_eq_true', beq_eq_false_iff_ne] at hp
      have le := ascending.1 p hp.1
      have ne := hp.2
      omega
    · apply pairwise_eraseDups
      apply ascending.2.filter
termination_by points.length
decreasing_by exact Nat.lt_succ_of_le (List.length_filter_le _ _)

/-- The characters of a label that are written as they are. -/
def asciiOf (label : List Char) : List Char :=
  label.filter (·.toNat < 0x80)

/-- What the ASCII form of a label is made of: its ASCII characters with a mark after them if there
are any, and the digits from which a reader of them gets the label. -/
theorem exists_encode_eq (label : List Char) :
  ∃ digits, encode label = (if (asciiOf label).isEmpty then [] else asciiOf label ++ ['-']) ++ digits
    ∧ (∀ c ∈ digits, isDigitCharacter c)
    ∧ readPoints (asciiOf label) 0x80 0 72 digits = some label
  := by
  let points := ((label.filter (0x80 ≤ ·.toNat)).map Char.toNat).mergeSort
  have sorted : points.Pairwise (· ≤ ·) := by
    have pairwise := @List.pairwise_mergeSort _ (fun a b : Nat => decide (a ≤ b))
      (by simpa using fun a b c => Nat.le_trans) (by simpa using Nat.le_total)
      ((label.filter (0x80 ≤ ·.toNat)).map Char.toNat)
    apply pairwise.imp
    simp
  have mem : ∀ p, p ∈ points.eraseDups ↔ ∃ c ∈ label, 0x80 ≤ c.toNat ∧ c.toNat = p := by
    intro p
    rw [List.mem_eraseDups, List.mem_mergeSort]
    simp [and_assoc]
  have begin : Tracks (asciiOf label) (if (asciiOf label).isEmpty then [] else asciiOf label ++ ['-'])
      ⟨if (asciiOf label).isEmpty then [] else asciiOf label ++ ['-'], 0, 72, (asciiOf label).length⟩
      (label.filter (·.toNat < 0x80)) 0x80 0 :=
    ⟨0x80, 0, [], by simp [asciiOf]⟩
  obtain ⟨last, n, i, digits, written, each, reads, -⟩ := begin.run
    (pairwise_eraseDups sorted)
    (by
      intro p hp
      obtain ⟨c, -, beyond, rfl⟩ := (mem p).mp hp
      exact beyond)
    (by
      intro c hc beyond
      exact (mem _).mpr ⟨c, hc, beyond, rfl⟩)
  refine ⟨digits, written, each, ?_⟩
  have all := reads []
  rw [List.append_nil] at all
  rw [all, readPoints]

theorem isDigitCharacter_ne_mark {c : Char} (h : isDigitCharacter c) :
  c ≠ '-'
  := by
  rintro rfl
  revert h
  decide

/-- A label is read from its ASCII form. -/
theorem decode_encode (label : List Char) :
  decode (encode label) = some label
  := by
  obtain ⟨digits, form, each, reads⟩ := exists_encode_eq label
  have unmarked : ∀ c ∈ digits.reverse, decide (c ≠ '-') = true := by
    intro c hc
    rw [decide_eq_true_iff]
    exact isDigitCharacter_ne_mark (each c (List.mem_reverse.mp hc))
  rw [form, decode]
  split_ifs with alone marked marked
  · rw [List.nil_append] at marked
    exact absurd rfl (isDigitCharacter_ne_mark (each _ marked))
  · rw [List.isEmpty_iff] at alone
    rw [List.nil_append, ← alone]
    exact reads
  · have reversed : (asciiOf label ++ ['-'] ++ digits).reverse
        = digits.reverse ++ '-' :: (asciiOf label).reverse := by
      simp
    simp only [reversed]
    rw [List.dropWhile_append_of_pos unmarked, List.takeWhile_append_of_pos unmarked]
    simpa using reads
  · exact absurd (by simp) marked

/-- A character of the ASCII form of a label is an ASCII character of it, the mark after those or a
digit. -/
theorem of_mem_encode {label : List Char} {c : Char} (h : c ∈ encode label) :
  (c ∈ label ∧ c.toNat < 0x80) ∨ c = '-' ∨ isDigitCharacter c
  := by
  obtain ⟨digits, form, each, -⟩ := exists_encode_eq label
  rw [form, List.mem_append] at h
  rcases h with start | digit
  · split at start
    · cases start
    · simp only [asciiOf, List.mem_append, List.mem_filter, decide_eq_true_eq,
        List.mem_singleton] at start
      exact start.imp_right .inl
  · exact .inr (.inr (each c digit))

end OlapClient.Url.Punycode
