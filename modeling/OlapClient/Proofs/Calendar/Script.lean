import Mathlib.Algebra.Order.Field.Rat
import Mathlib.Tactic.Common
import Mathlib.Tactic.Positivity
import OlapClient.Proofs.Calendar.Moment

/-!
# Moments read leniently

The numbers of a written moment need not be padded, the second may be left out, and a fraction of it
may have up to nine digits.  `Script` holds these digits and `Script.Spells` says which texts have
them.  A script denotes the moment with these numbers, if the calendar has its day and the day has
its time (`Script.exists_denotes_iff`), and `Script.read_eq_ok_iff` says that the texts of a script
are read as the moment that it denotes.  How a number is written plays no part in that.
-/

namespace OlapClient.Calendar

open OlapClient.Number

/-! ### Days of the calendar -/

/-- A year has a 29th of February: it is divisible by four, and a year that ends a century by four
hundred. -/
def LeapYear (year : Nat) : Prop :=
  4 ∣ year ∧ (100 ∣ year → 400 ∣ year)

/-- A year has a day of a month. -/
inductive HasDay (year : Nat) : Nat → Nat → Prop where
  | long {month day : Nat} (among : month ∈ [1, 3, 5, 7, 8, 10, 12]) (first : 1 ≤ day)
      (last : day ≤ 31) : HasDay year month day
  | short {month day : Nat} (among : month ∈ [4, 6, 9, 11]) (first : 1 ≤ day) (last : day ≤ 30) :
      HasDay year month day
  | february {day : Nat} (first : 1 ≤ day) (last : day ≤ 28) : HasDay year 2 day
  | leap (leap : LeapYear year) : HasDay year 2 29

theorem isLeapYear_iff (year : Nat) :
  isLeapYear year ↔ LeapYear year
  := by
  simp only [isLeapYear, LeapYear, Bool.and_eq_true, Bool.or_eq_true, decide_eq_true_eq]
  omega

/-- A year has the days that the length of each month leaves room for. -/
theorem hasDay_iff (year month day : Nat) :
  HasDay year month day ↔ 1 ≤ day ∧ day ≤ daysInMonth year month
  := by
  constructor
  · intro has
    cases has with
    | long among first last =>
      simp only [List.mem_cons, List.not_mem_nil, or_false] at among
      rcases among with rfl | rfl | rfl | rfl | rfl | rfl | rfl <;> exact ⟨first, last⟩
    | short among first last =>
      simp only [List.mem_cons, List.not_mem_nil, or_false] at among
      rcases among with rfl | rfl | rfl | rfl <;> exact ⟨first, last⟩
    | february first last =>
      simp only [daysInMonth]
      split <;> omega
    | leap leap => simp [daysInMonth, (isLeapYear_iff year).mpr leap]
  · rintro ⟨first, last⟩
    unfold daysInMonth at last
    split at last
    case h_1 | h_2 | h_3 | h_4 | h_5 | h_6 | h_7 => exact HasDay.long (by decide) first last
    case h_8 | h_9 | h_10 | h_11 => exact HasDay.short (by decide) first last
    case h_12 =>
      split at last
      · rename_i leap
        obtain rfl | before : day = 29 ∨ day ≤ 28 := by omega
        · apply HasDay.leap ((isLeapYear_iff year).mp leap)
        · apply HasDay.february first before
      · apply HasDay.february first last
    case h_13 => omega

theorem Date.ofNumbers?_eq_some_iff {year : Int} {month day : Nat} {d : Date} :
  ofNumbers? year month day = some d ↔ d.year = year ∧ d.month = month ∧ d.day = day
  := by
  constructor
  · intro made
    unfold ofNumbers? at made
    split at made
    · split at made
      · cases made
        exact ⟨rfl, rfl, rfl⟩
      · cases made
    · cases made
  · rintro ⟨rfl, rfl, rfl⟩
    apply d.ofNumbers?_eq

theorem TimeOfDay.ofNumbers?_eq_some_iff {hour minute second nanosecond : Nat} {t : TimeOfDay} :
  ofNumbers? hour minute second nanosecond = some t
    ↔ t.hour = hour ∧ t.minute = minute ∧ t.second = second ∧ t.nanosecond = nanosecond
  := by
  constructor
  · intro made
    unfold ofNumbers? at made
    split at made
    · cases made
      exact ⟨rfl, rfl, rfl, rfl⟩
    · cases made
  · rintro ⟨rfl, rfl, rfl, rfl⟩
    apply t.ofNumbers?_eq

theorem Date.exists_iff {year month day : Nat} (digits : year < 10000) :
  (∃ d, ofNumbers? year month day = some d) ↔ HasDay year month day
  := by
  have years : firstYear ≤ year ∧ (year : Int) ≤ lastYear := by
    rw [firstYear, lastYear]
    omega
  rw [hasDay_iff, ofNumbers?, dif_pos years]
  split
  · rename_i has
    exact ⟨fun _ => has, fun _ => ⟨_, rfl⟩⟩
  · rename_i lacks
    simp [lacks]

theorem TimeOfDay.exists_iff {hour minute second nanosecond : Nat} (plain : second ≤ 59)
    (part : nanosecond < 1000000000) :
  (∃ t, ofNumbers? hour minute second nanosecond = some t) ↔ hour ≤ 23 ∧ minute ≤ 59
  := by
  rw [ofNumbers?]
  split
  · rename_i within
    have clock : hour ≤ 23 ∧ minute ≤ 59 := by omega
    exact ⟨fun _ => clock, fun _ => ⟨_, rfl⟩⟩
  · rename_i outside
    have clock : ¬ (hour ≤ 23 ∧ minute ≤ 59) := by omega
    simp [clock]

/-! ### Scripts -/

/-- The digits of a written moment; those of the second and of its fraction are empty where these
are not written. -/
structure Script where
  year : List Char
  month : List Char
  day : List Char
  hour : List Char
  minute : List Char
  second : List Char
  fraction : List Char
  deriving DecidableEq, Repr

/-- What stands behind the minute: nothing, a second, or a second and a fraction of it.  The second
is none that leaps. -/
inductive Tail : List Char → List Char → List Char → Prop where
  | minute : Tail [] [] []
  | second {second : List Char} (number : IsNumber 2 second) (plain : digitsValue second ≤ 59) :
      Tail second [] (':' :: second)
  | fraction {second fraction : List Char} (number : IsNumber 2 second)
      (plain : digitsValue second ≤ 59) (places : IsNumber 9 fraction) :
      Tail second fraction (':' :: second ++ '.' :: fraction)

namespace Script

/-- A text has the digits of a script. -/
inductive Spells (w : Script) : List Char → Prop where
  | spelled {mark : Char} {rest : List Char} (year : IsNumber 4 w.year) (month : IsNumber 2 w.month)
      (day : IsNumber 2 w.day) (letter : mark = 'T' ∨ mark = 't') (hour : IsNumber 2 w.hour)
      (minute : IsNumber 2 w.minute) (tail : Tail w.second w.fraction rest) :
      Spells w (w.year ++ '-' :: w.month ++ '-' :: w.day
        ++ mark :: (w.hour ++ ':' :: w.minute ++ rest))

/-- The part of a second that a script denotes. -/
def partOfSecond (w : Script) : Rat :=
  digitsValue w.fraction / 10 ^ w.fraction.length

/-- A moment has the numbers of a script, and its nanoseconds are the fraction of a second that the
script has. -/
structure Denotes (w : Script) (m : Moment) : Prop where
  year : m.date.year = digitsValue w.year
  month : m.date.month = digitsValue w.month
  day : m.date.day = digitsValue w.day
  hour : m.time.hour = digitsValue w.hour
  minute : m.time.minute = digitsValue w.minute
  second : m.time.second = digitsValue w.second
  part : (m.time.nanosecond : Rat) / 10 ^ 9 = w.partOfSecond

/-- Two scripts have the same numbers, whatever zeros they are written with. -/
structure SameNumbers (w w' : Script) : Prop where
  year : digitsValue w.year = digitsValue w'.year
  month : digitsValue w.month = digitsValue w'.month
  day : digitsValue w.day = digitsValue w'.day
  hour : digitsValue w.hour = digitsValue w'.hour
  minute : digitsValue w.minute = digitsValue w'.minute
  second : digitsValue w.second = digitsValue w'.second
  part : w.partOfSecond = w'.partOfSecond

theorem SameNumbers.symm {w w' : Script} (same : w.SameNumbers w') :
  w'.SameNumbers w
  := ⟨same.year.symm, same.month.symm, same.day.symm, same.hour.symm, same.minute.symm,
    same.second.symm, same.part.symm⟩

theorem SameNumbers.denotes {w w' : Script} (same : w.SameNumbers w') {m : Moment}
    (denotes : w.Denotes m) :
  w'.Denotes m
  := by
  constructor
  · rw [denotes.year, same.year]
  · rw [denotes.month, same.month]
  · rw [denotes.day, same.day]
  · rw [denotes.hour, same.hour]
  · rw [denotes.minute, same.minute]
  · rw [denotes.second, same.second]
  · rw [denotes.part, same.part]

theorem SameNumbers.denotes_iff {w w' : Script} (same : w.SameNumbers w') (m : Moment) :
  w.Denotes m ↔ w'.Denotes m
  := ⟨same.denotes, same.symm.denotes⟩

/-- The nanoseconds of a script whose fraction has at most nine digits. -/
def nanosecond (w : Script) : Nat :=
  digitsValue w.fraction * 10 ^ (9 - w.fraction.length)

theorem part_iff {w : Script} (places : w.fraction.length ≤ 9) (n : Nat) :
  (n : Rat) / 10 ^ 9 = w.partOfSecond ↔ n = w.nanosecond
  := by
  have unit : (10 : Rat) ^ 9 = 10 ^ (9 - w.fraction.length) * 10 ^ w.fraction.length := by
    rw [← pow_add, Nat.sub_add_cancel places]
  rw [partOfSecond, div_eq_div_iff (by positivity) (by positivity), unit, ← mul_assoc,
    mul_left_inj' (by positivity), nanosecond]
  exact_mod_cast Iff.rfl

/-- A script denotes the moment that is made of its numbers. -/
theorem denotes_iff {w : Script} (places : w.fraction.length ≤ 9) {m : Moment} :
  w.Denotes m
    ↔ Date.ofNumbers? (digitsValue w.year) (digitsValue w.month) (digitsValue w.day)
        = some m.date
      ∧ TimeOfDay.ofNumbers? (digitsValue w.hour) (digitsValue w.minute) (digitsValue w.second)
        w.nanosecond = some m.time
  := by
  rw [Date.ofNumbers?_eq_some_iff, TimeOfDay.ofNumbers?_eq_some_iff, ← part_iff places]
  constructor
  · rintro ⟨year, month, day, hour, minute, second, part⟩
    exact ⟨⟨year, month, day⟩, hour, minute, second, part⟩
  · rintro ⟨⟨year, month, day⟩, hour, minute, second, part⟩
    exact ⟨year, month, day, hour, minute, second, part⟩

end Script

/-! ### Reading a script -/

section

variable {second fraction rest : List Char}

theorem Tail.length_fraction_le (tail : Tail second fraction rest) :
  fraction.length ≤ 9
  := by
  cases tail with
  | minute | second => simp
  | fraction _ _ places => exact places.2

theorem Tail.digitsValue_second_le (tail : Tail second fraction rest) :
  digitsValue second ≤ 59
  := by
  cases tail with
  | minute => decide
  | second _ plain | fraction _ plain => exact plain

/-- A fraction of a second is less than a second. -/
theorem Tail.nanosecond_lt (tail : Tail second fraction rest) :
  digitsValue fraction * 10 ^ (9 - fraction.length) < 1000000000
  := by
  have places := tail.length_fraction_le
  have small : digitsValue fraction < 10 ^ fraction.length := by
    apply digitsValue_lt
    cases tail with
    | minute | second => simp
    | fraction _ _ places => exact places.1.2
  calc digitsValue fraction * 10 ^ (9 - fraction.length)
    _ < 10 ^ fraction.length * 10 ^ (9 - fraction.length) :=
      Nat.mul_lt_mul_of_pos_right small (Nat.pow_pos (by decide))
    _ = 10 ^ 9 := by rw [← pow_add, Nat.add_sub_cancel' places]

theorem TimeOfDay.readSeconds_of_minute {hour minute : List Char} (hours : IsNumber 2 hour)
    (minutes : IsNumber 2 minute) :
  readSeconds (hour ++ ':' :: minute) = none
  := by
  have mark : Stops (':' :: minute) := stops_cons (by decide) minute
  rw [readSeconds, readField_append hours mark]
  simp [readMark, readField_digits minutes]

theorem TimeOfDay.readMinutes_append {hour minute : List Char} (hours : IsNumber 2 hour)
    (minutes : IsNumber 2 minute) {rest : List Char} (stops : Stops rest) :
  readMinutes (hour ++ ':' :: minute ++ rest)
    = if rest.isEmpty then ofNumbers? (digitsValue hour) (digitsValue minute) 0 0 else none
  := by
  have mark : Stops (':' :: (minute ++ rest)) := stops_cons (by decide) _
  rw [readMinutes, List.append_assoc, List.cons_append, readField_append hours mark]
  simp [readMark, readField_append minutes stops]

/-- A time of day is read from its numbers, whatever is written behind the minute. -/
theorem TimeOfDay.read_append
    {hour minute : List Char} (hours : IsNumber 2 hour) (minutes : IsNumber 2 minute)
    (tail : Tail second fraction rest) :
  read (hour ++ ':' :: minute ++ rest)
    = ofNumbers? (digitsValue hour) (digitsValue minute) (digitsValue second)
      (digitsValue fraction * 10 ^ (9 - fraction.length))
  := by
  have mark (rest : List Char) : Stops (':' :: rest) := stops_cons (by decide) rest
  cases tail with
  | minute =>
    have first : readSeconds (hour ++ ':' :: minute ++ []) = none := by
      rw [List.append_nil, readSeconds_of_minute hours minutes]
    rw [read, first, Option.none_or, readMinutes_append hours minutes stops_nil]
    rfl
  | second number =>
    have first := readSeconds_append hours minutes number stops_nil rfl
    rw [List.append_nil] at first
    rw [read, first, readMinutes_append hours minutes (mark _)]
    simp [digitsValue]
  | fraction number _ places =>
    have point : Stops ('.' :: fraction) := stops_cons (by decide) fraction
    have first := readSeconds_append hours minutes number point (readFraction_digits places)
    rw [List.append_assoc] at first
    rw [read, first, List.cons_append, readMinutes_append hours minutes (mark _)]
    simp

end

namespace Script

theorem isDatePart_of_isNumber {width : Nat} {digits : List Char} (number : IsNumber width digits) :
  ∀ c ∈ digits, isDatePart c
  := fun c mem => isDatePart_of_isDigit (number.1.2 c mem)

/-- The numbers of a script are looked up in the calendar. -/
theorem read_of_spells {w : Script} {cs : List Char} (spells : w.Spells cs) :
  Moment.read cs
    = match Date.ofNumbers? (digitsValue w.year) (digitsValue w.month) (digitsValue w.day),
        TimeOfDay.ofNumbers? (digitsValue w.hour) (digitsValue w.minute) (digitsValue w.second)
          w.nanosecond with
      | some date, some time => .ok ⟨date, time⟩
      | _, _ => .error .notInCalendar
  := by
  obtain ⟨year, month, day, letter, hour, minute, tail⟩ := spells
  have dates : ∀ c ∈ w.year ++ '-' :: w.month ++ '-' :: w.day, isDatePart c := by
    rw [List.forall_mem_append, List.forall_mem_append, List.forall_mem_cons, List.forall_mem_cons]
    exact ⟨⟨isDatePart_of_isNumber year, rfl, isDatePart_of_isNumber month⟩, rfl,
      isDatePart_of_isNumber day⟩
  rename_i mark rest
  have separator : isSeparator mark := by
    rcases letter with rfl | rfl <;> rfl
  rw [Moment.read_append dates separator, Date.read_append (fun _ => readYear_append year) month day,
    TimeOfDay.read_append hour minute tail]
  rfl

variable {w : Script} {cs : List Char}

/-- A text is read as the moment that its script denotes. -/
theorem read_eq_ok_iff (spells : w.Spells cs) {m : Moment} :
  Moment.read cs = .ok m ↔ w.Denotes m
  := by
  have places : w.fraction.length ≤ 9 := by
    obtain ⟨-, -, -, -, -, -, tail⟩ := spells
    apply tail.length_fraction_le
  rw [denotes_iff places, read_of_spells spells]
  obtain ⟨date, time⟩ := m
  cases Date.ofNumbers? (digitsValue w.year) (digitsValue w.month) (digitsValue w.day) with
  | none => simp
  | some date' =>
    cases TimeOfDay.ofNumbers? (digitsValue w.hour) (digitsValue w.minute) (digitsValue w.second)
      w.nanosecond with
    | none => simp
    | some time' => simp

/-- A text with a script is refused as one that the calendar does not have. -/
theorem read_eq_error (spells : w.Spells cs) {fault : MomentFault}
    (refused : Moment.read cs = .error fault) :
  fault = .notInCalendar
  := by
  rw [read_of_spells spells] at refused
  split at refused
  · cases refused
  · cases refused
    rfl

/-- A script denotes a moment when its year has the day and a day has the time. -/
theorem exists_denotes_iff (spells : w.Spells cs) :
  (∃ m, w.Denotes m)
    ↔ HasDay (digitsValue w.year) (digitsValue w.month) (digitsValue w.day)
      ∧ digitsValue w.hour ≤ 23 ∧ digitsValue w.minute ≤ 59
  := by
  obtain ⟨year, -, -, -, -, -, tail⟩ := spells
  have years : digitsValue w.year < 10000 :=
    Nat.lt_of_lt_of_le (digitsValue_lt year.1.2) (Nat.pow_le_pow_right (by decide) year.2)
  simp only [denotes_iff tail.length_fraction_le]
  rw [← Date.exists_iff years,
    ← TimeOfDay.exists_iff tail.digitsValue_second_le tail.nanosecond_lt]
  constructor
  · rintro ⟨m, date, time⟩
    exact ⟨⟨m.date, date⟩, m.time, time⟩
  · rintro ⟨⟨date, made_date⟩, time, made_time⟩
    exact ⟨⟨date, time⟩, made_date, made_time⟩

/-- Texts whose scripts have the same numbers are read alike. -/
theorem read_congr {w' : Script} {cs' : List Char} (spells : w.Spells cs) (spells' : w'.Spells cs')
    (same : w.SameNumbers w') :
  Moment.read cs = Moment.read cs'
  := by
  cases read : Moment.read cs with
  | ok m =>
    rw [read_eq_ok_iff spells, same.denotes_iff, ← read_eq_ok_iff spells'] at read
    exact read.symm
  | error fault =>
    cases read' : Moment.read cs' with
    | ok m =>
      rw [read_eq_ok_iff spells', ← same.denotes_iff, ← read_eq_ok_iff spells, read] at read'
      cases read'
    | error fault' => rw [read_eq_error spells read, read_eq_error spells' read']

end Script

end OlapClient.Calendar
