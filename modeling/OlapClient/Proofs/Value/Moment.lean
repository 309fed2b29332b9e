import Mathlib.Tactic.Common
import OlapClient.Proofs.Calendar.Script
import OlapClient.Proofs.Results
import OlapClient.Proofs.Value.Text

/-!
# Moments read by their schema type

A text that has the digits of a script between its blanks is read as the moment that the script
denotes, where there is one.  Blanks, the case of the letter, zeros before a number and zeros behind
a fraction make no difference (`moments_read_leniently`).  A text without the letter is refused.
-/

namespace OlapClient

open OlapClient.Calendar
open OlapClient.Number
open OlapClient.Text

theorem Calendar.Moment.read_of_forall {cs : List Char} (h : ∀ c ∈ cs, isSeparator c = false) :
  Moment.read cs = .error .noSeparator
  := by
  have all : cs.dropWhile (!isSeparator ·) = [] := by
    rw [List.dropWhile_eq_nil_iff]
    intro c mem
    rw [h c mem, Bool.not_false]
  rw [Moment.read, all]

theorem readMoment_eq_ok_iff {cs : List Char} {m : Moment} :
  readMoment cs = .ok m ↔ Moment.read cs = .ok m
  := by
  unfold readMoment
  split <;> simp_all

variable {text text' field : String} {w w' : Script}

/-- A text is read as the moment that its script denotes. -/
theorem coerce_of_spells (spells : w.Spells (trim text.toList)) {v : Value} :
  coerce text field .dateTime = .ok v ↔ ∃ m, w.Denotes m ∧ v = .dateTime m
  := by
  have form : readValue .dateTime text = .dateTime <$> readMoment (trim text.toList) := rfl
  simp only [coerce_eq_ok, form, map_eq_ok_iff, readMoment_eq_ok_iff, Script.read_eq_ok_iff spells]

/-- Texts whose scripts have the same numbers are read alike, also where they are refused. -/
theorem coerce_congr
    (spells : w.Spells (trim text.toList)) (spells' : w'.Spells (trim text'.toList))
    (same : w.SameNumbers w') :
  coerce text field .dateTime = coerce text' field .dateTime
  := by
  have alike := Script.read_congr spells spells' same
  have moments : readMoment (trim text.toList) = readMoment (trim text'.toList) := by
    rw [readMoment, readMoment, ← alike]
    cases read : Moment.read (trim text.toList) with
    | ok m => rfl
    | error fault =>
      rw [Script.read_eq_error spells read]
  simp only [coerce, readValue, moments]

/-- A text without the letter between date and time is refused. -/
theorem coerce_of_forall (h : ∀ c ∈ text.toList, c ≠ 'T' ∧ c ≠ 't') :
  coerce text field .dateTime
    = .error (.coercion field .dateTime (.noTimeSeparator (trimmed text)))
  := by
  have separators : ∀ c ∈ trim text.toList, isSeparator c = false := by
    intro c mem
    obtain ⟨upper, lower⟩ := h c ((trim_sublist _).subset mem)
    simp [isSeparator, upper, lower]
  have refused : readMoment (trim text.toList) = .error (.noTimeSeparator (trimmed text)) := by
    rw [readMoment, Moment.read_of_forall separators]
    rfl
  rw [coerce, readValue, refused]
  rfl

/-- A text with the digits of a script between blanks is read as the moment with these numbers in
coordinated universal time, a missing second being zero, exactly where the calendar has the day of
the script and the day has its time.  Two such texts with the same numbers are read alike, and a
text without the letter `T` of either case is refused. -/
theorem moments_read_leniently (field : String) :
  (∀ text (w : Script), w.Spells (trim text.toList) →
      (∀ v, coerce text field .dateTime = .ok v ↔ ∃ m, w.Denotes m ∧ v = .dateTime m)
        ∧ ((∃ v, coerce text field .dateTime = .ok v)
          ↔ HasDay (digitsValue w.year) (digitsValue w.month) (digitsValue w.day)
            ∧ digitsValue w.hour ≤ 23 ∧ digitsValue w.minute ≤ 59))
    ∧ (∀ text text' (w w' : Script), w.Spells (trim text.toList) → w'.Spells (trim text'.toList) →
        w.SameNumbers w' → coerce text field .dateTime = coerce text' field .dateTime)
    ∧ ∀ text, (∀ c ∈ text.toList, c ≠ 'T' ∧ c ≠ 't') →
        coerce text field .dateTime
          = .error (.coercion field .dateTime (.noTimeSeparator (trimmed text)))
  := by
  split_ands
  · intro text w spells
    constructor
    · intro v
      apply coerce_of_spells spells
    · rw [← Script.exists_denotes_iff spells]
      constructor
      · rintro ⟨v, read⟩
        obtain ⟨m, denotes, -⟩ := (coerce_of_spells spells).mp read
        exact ⟨m, denotes⟩
      · rintro ⟨m, denotes⟩
        exact ⟨.dateTime m, (coerce_of_spells spells).mpr ⟨m, denotes, rfl⟩⟩
  · intro text text' w w' spells spells' same
    apply coerce_congr spells spells' same
  · intro text h
    apply coerce_of_forall h

/-- A 29th of February at five past seven, without padding and with a fraction of three digits. -/
def leapDay : Script :=
  ⟨['2', '0', '0', '0'], ['2'], ['2', '9'], ['7'], ['0', '5'], ['9'], ['2', '5', '0']⟩

/-- The same moment, padded and without the last digit of the fraction. -/
def leapDayPadded : Script :=
  ⟨['2', '0', '0', '0'], ['0', '2'], ['2', '9'], ['0', '7'], ['0', '5'], ['0', '9'], ['2', '5']⟩

theorem moments_read_leniently_leapDay :
  (leapDay.Spells (trim "\t2000-2-29t7:05:9.250 ".toList)
      ∧ leapDayPadded.Spells (trim "2000-02-29T07:05:09.25".toList)
      ∧ leapDay.SameNumbers leapDayPadded)
    ∧ (∃ m, coerce "\t2000-2-29t7:05:9.250 " "Opened" .dateTime = .ok (.dateTime m)
      ∧ leapDay.Denotes m)
    ∧ coerce "\t2000-2-29t7:05:9.250 " "Opened" .dateTime
      = coerce "2000-02-29T07:05:09.25" "Opened" .dateTime
    ∧ coerce "2000-02-29 07:05:09" "Opened" .dateTime
      = .error (.coercion "Opened" .dateTime (.noTimeSeparator "2000-02-29 07:05:09"))
  := by
  have spells : leapDay.Spells (trim "\t2000-2-29t7:05:9.250 ".toList) :=
    .spelled (by decide) (by decide) (by decide) (.inr rfl) (by decide) (by decide)
      (.fraction (by decide) (by decide) (by decide))
  have padded : leapDayPadded.Spells (trim "2000-02-29T07:05:09.25".toList) :=
    .spelled (by decide) (by decide) (by decide) (.inl rfl) (by decide) (by decide)
      (.fraction (by decide) (by decide) (by decide))
  have same : leapDay.SameNumbers leapDayPadded :=
    ⟨rfl, rfl, rfl, rfl, rfl, rfl, by decide +kernel⟩
  have day : HasDay 2000 2 29 := .leap ⟨by decide, fun _ => by decide⟩
  obtain ⟨readings, alike, refusals⟩ := moments_read_leniently "Opened"
  obtain ⟨moment, succeeds⟩ := readings _ _ spells
  obtain ⟨v, read⟩ := succeeds.mpr ⟨day, by decide, by decide⟩
  obtain ⟨m, denotes, rfl⟩ := (moment v).mp read
  exact ⟨⟨spells, padded, same⟩, ⟨m, read, denotes⟩, alike _ _ _ _ spells padded same,
    refusals _ (by simp)⟩

end OlapClient
