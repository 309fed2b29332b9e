import Mathlib.Data.List.TakeWhile
import Mathlib.Tactic.Common
import OlapClient.Calendar.Numeral
import OlapClient.Proofs.Number.Grammar

/-!
# Moments read back

A moment is written fully padded, so each of its numbers has as many digits as the reader takes at
that place, and a sign parts a year of more digits from what the reader would otherwise cut off.
Every moment of the calendar, leap seconds and years of any length included, is read back as
itself.
-/

namespace OlapClient.Calendar

open OlapClient.Number
open OlapClient.Text

/-! ### Reading one number -/

/-- One digit or more, at most `width` of them. -/
def IsNumber (width : Nat) (digits : List Char) : Prop :=
  IsDigits digits ∧ digits.length ≤ width

instance (width : Nat) (digits : List Char) : Decidable (IsNumber width digits) :=
  inferInstanceAs (Decidable (_ ∧ _))

theorem isBlank_of_isDigit {c : Char} (h : isDigit c) :
  isBlank c = false
  := by
  have range := isDigit_iff.mp h
  simp [isBlank, blankRanges]
  omega

theorem trimStart_cons {c : Char} {cs : List Char} (h : isBlank c = false) :
  trimStart (c :: cs) = c :: cs
  := by
  simp [trimStart, h]

/-- No digit comes first. -/
def Stops (rest : List Char) : Prop :=
  ∀ c ∈ rest.head?, isDigit c = false

theorem stops_nil :
  Stops []
  := by
  simp [Stops]

theorem stops_cons {c : Char} (h : isDigit c = false) (rest : List Char) :
  Stops (c :: rest)
  := by
  simpa [Stops] using h

theorem takeWhile_of_stops {rest : List Char} (h : Stops rest) (n : Nat) :
  (rest.take n).takeWhile isDigit = []
  := by
  cases rest with
  | nil => simp
  | cons c rest =>
    cases n with
    | zero => simp
    | succ n =>
      have first : isDigit c = false := h c (by simp)
      simp [first]

section

variable {width : Nat} {digits rest : List Char}

/-- Digits are read as their value, up to what stops them. -/
theorem readDigitsUpTo_append (number : IsNumber width digits) (stops : Stops rest) :
  readDigitsUpTo width (digits ++ rest) = some (digitsValue digits, rest)
  := by
  obtain ⟨⟨some_digit, all⟩, fits⟩ := number
  have read : ((digits ++ rest).take width).takeWhile isDigit = digits := by
    rw [List.take_append, List.take_of_length_le fits, List.takeWhile_append_of_pos all,
      takeWhile_of_stops stops, List.append_nil]
  rw [readDigitsUpTo, read]
  simp [some_digit]

theorem readField_append (number : IsNumber 2 digits) (stops : Stops rest) :
  readField (digits ++ rest) = some (digitsValue digits, rest)
  := by
  rw [← readDigitsUpTo_append number stops]
  obtain ⟨⟨some_digit, all⟩, -⟩ := number
  cases digits with
  | nil => contradiction
  | cons c digits =>
    rw [readField, List.cons_append, trimStart_cons (isBlank_of_isDigit (all c List.mem_cons_self))]

theorem readField_digits (number : IsNumber 2 digits) :
  readField digits = some (digitsValue digits, [])
  := by
  have read := readField_append number stops_nil
  rwa [List.append_nil] at read

/-- A year without a sign is read from up to four digits. -/
theorem readYear_append (number : IsNumber 4 digits) (stops : Stops rest) :
  readYear (digits ++ rest) = some ((digitsValue digits : Int), rest)
  := by
  have read := readDigitsUpTo_append number stops
  obtain ⟨digits_only, -⟩ := number
  cases digits with
  | nil => exact absurd rfl digits_only.1
  | cons c digits =>
    have minus : c ≠ '-' := digits_only.head_ne (by decide)
    have plus : c ≠ '+' := digits_only.head_ne (by decide)
    have visible := isBlank_of_isDigit (digits_only.2 c List.mem_cons_self)
    rw [List.cons_append] at read
    rw [readYear, List.cons_append, trimStart_cons visible]
    simp [minus, plus, read]

/-- The digits behind the point are read as nanoseconds. -/
theorem readFraction_digits (number : IsNumber 9 digits) :
  readFraction ('.' :: digits) = some (digitsValue digits * 10 ^ (9 - digits.length), [])
  := by
  obtain ⟨⟨some_digit, all⟩, most⟩ := number
  have read : digits.takeWhile isDigit = digits := List.takeWhile_eq_self_iff.mpr all
  have rest : digits.dropWhile isDigit = [] := List.dropWhile_eq_nil_iff.mpr all
  simp [readFraction, read, rest, List.take_of_length_le most, some_digit]

end

/-! ### Padded numbers -/

theorem isDigits_padded (width n : Nat) :
  IsDigits (padded width n)
  := by
  constructor
  · simp [padded, decimalDigits_ne_nil]
  · rw [padded, List.forall_mem_append]
    exact ⟨isDigit_of_mem_zeros, fun _ => isDigit_of_mem_decimalDigits⟩

theorem digitsValue_padded (width n : Nat) :
  digitsValue (padded width n) = n
  := by
  simp [digitsValue_eq, padded, Nat.ofDigitChars_append, ofDigitChars_decimalDigits]

theorem length_padded {width n : Nat} (positive : 0 < width) (small : n < 10 ^ width) :
  (padded width n).length = width
  := by
  have digits : (decimalDigits n).length ≤ width :=
    (Nat.length_toDigits_le_iff (by decide) positive).mpr small
  simp only [padded, List.length_append, List.length_replicate]
  omega

theorem isNumber_padded {width n : Nat} (positive : 0 < width) (small : n < 10 ^ width) :
  IsNumber width (padded width n)
  := ⟨isDigits_padded width n, Nat.le_of_eq (length_padded positive small)⟩

/-! ### Days -/

/-- A year is read back, its sign parting it from blanks and from digits before it. -/
theorem readYear_yearText (year : Int) {rest : List Char} (stops : Stops rest) :
  readYear (yearText year ++ rest) = some (year, rest)
  := by
  have read {width : Nat} (fits : (padded 4 year.natAbs).length ≤ width) :
      readDigitsUpTo width (padded 4 year.natAbs ++ rest) = some (year.natAbs, rest) := by
    rw [readDigitsUpTo_append ⟨isDigits_padded 4 _, fits⟩ stops, digitsValue_padded]
  have whole : (padded 4 year.natAbs).length ≤ (padded 4 year.natAbs ++ rest).length := by simp
  rw [yearText]
  split
  · rw [List.cons_append, readYear, trimStart_cons (by decide)]
    simp only [read whole, Option.map_some, Option.some.injEq, Prod.mk.injEq, and_true]
    omega
  split
  · rw [List.cons_append, readYear, trimStart_cons (by decide)]
    simp only [read whole, Option.map_some, Option.some.injEq, Prod.mk.injEq, and_true]
    omega
  · have small : year.natAbs < 10 ^ 4 := by omega
    rw [readYear_append (isNumber_padded (by decide) small) stops, digitsValue_padded]
    simp only [Option.some.injEq, Prod.mk.injEq, and_true]
    omega

/-- A month has a number of at most two digits, and so has each of its days. -/
theorem daysInMonth_le (year : Int) (month : Nat) :
  daysInMonth year month ≤ 31
  := by
  unfold daysInMonth
  split <;> try decide
  split <;> decide

theorem le_twelve_of_daysInMonth {year : Int} {month : Nat} (h : 0 < daysInMonth year month) :
  month ≤ 12
  := by
  by_contra late
  revert h
  unfold daysInMonth
  split <;> omega

namespace Date

theorem ofNumbers?_eq (d : Date) :
  ofNumbers? d.year d.month d.day = some d
  := by
  rw [ofNumbers?, dif_pos d.year_mem, dif_pos d.day_mem]

/-- A date is read from its numbers, however its year is written. -/
theorem read_append
    {written month day : List Char} {year : Int}
    (reads : ∀ rest, Stops rest → readYear (written ++ rest) = some (year, rest))
    (months : IsNumber 2 month) (days : IsNumber 2 day) :
  read (written ++ '-' :: month ++ '-' :: day)
    = ofNumbers? year (digitsValue month) (digitsValue day)
  := by
  have mark (rest : List Char) : Stops ('-' :: rest) := stops_cons (by decide) rest
  rw [read, List.append_assoc, List.cons_append, reads _ (mark _)]
  simp [readMark, readField_append months (mark day), readField_digits days]

theorem read_text (d : Date) :
  read d.text = some d
  := by
  have days := daysInMonth_le d.year d.month
  have day := d.day_mem
  have month := le_twelve_of_daysInMonth (Nat.lt_of_lt_of_le day.1 day.2)
  rw [text, read_append (fun _ => readYear_yearText d.year) (isNumber_padded (by decide) (by omega))
    (isNumber_padded (by decide) (by omega)), digitsValue_padded, digitsValue_padded, ofNumbers?_eq]

end Date

/-! ### Times of day -/

/-- The digits of a fraction are read as nanoseconds, whether three, six or nine are written. -/
theorem readFraction_padded
    {places : Nat} (unit : Nat) (positive : 0 < places) (most : places ≤ 9)
    (scale : unit = 10 ^ (9 - places)) {n : Nat} (small : n < 10 ^ places) :
  readFraction ('.' :: padded places n) = some (n * unit, [])
  := by
  have length := length_padded positive small
  rw [readFraction_digits ⟨isDigits_padded places n, by omega⟩, digitsValue_padded, length, scale]

theorem readFraction_fractionText {n : Nat} (small : n < 1000000000) :
  readFraction (fractionText n) = some (n, [])
  := by
  rw [fractionText]
  split
  · rename_i zero
    rw [zero]
    rfl
  split
  · rw [readFraction_padded 1000000 (by decide) (by decide) rfl (by omega)]
    congr 2
    omega
  split
  · rw [readFraction_padded 1000 (by decide) (by decide) rfl (by omega)]
    congr 2
    omega
  · rw [readFraction_padded 1 (by decide) (by decide) rfl (by omega), Nat.mul_one]

theorem stops_fractionText (n : Nat) :
  Stops (fractionText n)
  := by
  have point : isDigit '.' = false := by decide
  rw [fractionText]
  split
  · simp [Stops]
  split
  · apply stops_cons point
  split
  · apply stops_cons point
  · apply stops_cons point

namespace TimeOfDay

theorem ofNumbers?_eq (t : TimeOfDay) :
  ofNumbers? t.hour t.minute t.second t.nanosecond = some t
  := by
  rw [ofNumbers?, dif_pos ⟨t.hour_lt, t.minute_lt, t.second_le, t.nanosecond_lt⟩]

/-- A time of day is read from its numbers, however the fraction of its second is written. -/
theorem readSeconds_append
    {hour minute second fraction : List Char} {nanosecond : Nat} (hours : IsNumber 2 hour)
    (minutes : IsNumber 2 minute) (seconds : IsNumber 2 second) (stops : Stops fraction)
    (reads : readFraction fraction = some (nanosecond, [])) :
  readSeconds (hour ++ ':' :: minute ++ ':' :: second ++ fraction)
    = ofNumbers? (digitsValue hour) (digitsValue minute) (digitsValue second) nanosecond
  := by
  have mark (rest : List Char) : Stops (':' :: rest) := stops_cons (by decide) rest
  simp only [List.append_assoc, List.cons_append]
  rw [readSeconds, readField_append hours (mark _)]
  simp [readMark, readField_append minutes (mark _), readField_append seconds stops, reads]

theorem read_text (t : TimeOfDay) :
  read t.text = some t
  := by
  have hour := t.hour_lt
  have minute := t.minute_lt
  have second := t.second_le
  have number {n : Nat} (small : n < 100) : IsNumber 2 (padded 2 n) :=
    isNumber_padded (by decide) small
  have seconds : readSeconds t.text = some t := by
    rw [text, readSeconds_append (number (by omega)) (number (by omega)) (number (by omega))
      (stops_fractionText _) (readFraction_fractionText t.nanosecond_lt), digitsValue_padded,
      digitsValue_padded, digitsValue_padded, ofNumbers?_eq]
  rw [read, seconds, Option.some_or]

end TimeOfDay

/-! ### Moments -/

/-- A character of a written date. -/
def isDatePart (c : Char) : Bool :=
  isDigit c || c == '-' || c == '+'

theorem isDatePart_of_isDigit {c : Char} (h : isDigit c) :
  isDatePart c
  := by
  simp [isDatePart, h]

theorem isDatePart_of_mem_padded {width n : Nat} :
  ∀ c ∈ padded width n, isDatePart c
  := fun c mem => isDatePart_of_isDigit ((isDigits_padded width n).2 c mem)

theorem isDatePart_of_mem_text (d : Date) :
  ∀ c ∈ d.text, isDatePart c
  := by
  have year : ∀ c ∈ yearText d.year, isDatePart c := by
    rw [yearText]
    split
    · rw [List.forall_mem_cons]
      exact ⟨rfl, isDatePart_of_mem_padded⟩
    split
    · rw [List.forall_mem_cons]
      exact ⟨rfl, isDatePart_of_mem_padded⟩
    · apply isDatePart_of_mem_padded
  rw [Date.text, List.forall_mem_append, List.forall_mem_append, List.forall_mem_cons,
    List.forall_mem_cons]
  exact ⟨⟨year, rfl, isDatePart_of_mem_padded⟩, rfl, isDatePart_of_mem_padded⟩

theorem isSeparator_of_isDatePart {c : Char} (h : isDatePart c) :
  isSeparator c = false
  := by
  rw [← Bool.not_eq_true]
  intro separator
  simp only [isSeparator, Bool.or_eq_true, beq_iff_eq] at separator
  rcases separator with rfl | rfl <;> revert h <;> decide

/-- A date and a time are read apart. -/
theorem Moment.read_append
    {date time : List Char} {mark : Char} (dates : ∀ c ∈ date, isDatePart c)
    (separator : isSeparator mark) :
  Moment.read (date ++ mark :: time)
    = match Date.read date, TimeOfDay.read time with
      | some date, some time => .ok ⟨date, time⟩
      | _, _ => .error .notInCalendar
  := by
  have before : ∀ c ∈ date, (!isSeparator c) = true := by
    intro c mem
    rw [isSeparator_of_isDatePart (dates c mem), Bool.not_false]
  have cut : (date ++ mark :: time).dropWhile (!isSeparator ·) = mark :: time := by
    simp [List.dropWhile_append_of_pos before, separator]
  have kept : (date ++ mark :: time).takeWhile (!isSeparator ·) = date := by
    simp [List.takeWhile_append_of_pos before, separator]
  cases dated : Date.read date <;> cases timed : TimeOfDay.read time <;>
    simp [read, cut, kept, dated, timed]

/-- A moment is read back from its text. -/
theorem Moment.read_text (m : Moment) :
  Moment.read m.text.toList = .ok m
  := by
  rw [text, String.toList_ofList, read_append (isDatePart_of_mem_text m.date) (by decide)]
  simp [Date.read_text, TimeOfDay.read_text]

theorem isBlank_of_isDatePart {c : Char} (h : isDatePart c) :
  isBlank c = false
  := by
  simp only [isDatePart, Bool.or_eq_true, beq_iff_eq] at h
  rcases h with (digit | rfl) | rfl
  · apply isBlank_of_isDigit digit
  · decide
  · decide

theorem isBlank_of_mem_padded {width n : Nat} :
  ∀ c ∈ padded width n, isBlank c = false
  := fun c mem => isBlank_of_isDatePart (isDatePart_of_mem_padded c mem)

theorem isBlank_of_mem_fractionText (n : Nat) :
  ∀ c ∈ fractionText n, isBlank c = false
  := by
  have number {width m : Nat} : ∀ c ∈ '.' :: padded width m, isBlank c = false := by
    rw [List.forall_mem_cons]
    exact ⟨by decide, isBlank_of_mem_padded⟩
  rw [fractionText]
  split
  · simp
  split
  · apply number
  split
  · apply number
  · apply number

/-- No character of a written moment is blank. -/
theorem isBlank_of_mem_text (m : Moment) :
  ∀ c ∈ m.text.toList, isBlank c = false
  := by
  have colon : isBlank ':' = false := by decide
  rw [Moment.text, String.toList_ofList, List.forall_mem_append, List.forall_mem_cons,
    TimeOfDay.text, List.forall_mem_append, List.forall_mem_append, List.forall_mem_append,
    List.forall_mem_cons, List.forall_mem_cons]
  constructor
  · intro c hc
    apply isBlank_of_isDatePart (isDatePart_of_mem_text m.date c hc)
  · exact ⟨by decide, ⟨⟨isBlank_of_mem_padded, colon, isBlank_of_mem_padded⟩, colon,
      isBlank_of_mem_padded⟩, isBlank_of_mem_fractionText _⟩

end OlapClient.Calendar
