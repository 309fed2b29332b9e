import Mathlib.Data.List.GetD
import Mathlib.Data.List.Nodup
import Mathlib.Tactic.Common
import Mathlib.Tactic.IntervalCases
import OlapClient.Http.Base64

/-!
# Base64 loses nothing

A digit of base 64 has one value, and no digit is the padding.  Octets that are written alike are
therefore the same: `base64_injective`.
-/

namespace OlapClient.Http

open OlapClient.Text

/-! ### Digits -/

section

variable {n m : Nat}

theorem digit64_eq_getElem (n place : Nat) (below : n / 64 ^ place % 64 < digits64.length) :
  digit64 n place = digits64[n / 64 ^ place % 64]
  := List.getD_eq_getElem _ _ below

theorem mod_lt_length_digits64 (n : Nat) :
  n % 64 < digits64.length
  := Nat.mod_lt n (by decide)

@[simp]
theorem digit64_ne_padding (n place : Nat) :
  digit64 n place ≠ '='
  := by
  have other : '=' ∉ digits64 := by decide
  rw [digit64_eq_getElem n place (mod_lt_length_digits64 _)]
  intro padding
  apply other
  rw [← padding]
  exact List.getElem_mem _

@[simp]
theorem padding_ne_digit64 (n place : Nat) :
  '=' ≠ digit64 n place
  := (digit64_ne_padding n place).symm

/-- A digit has one value. -/
theorem digit64_eq_iff {place : Nat} :
  digit64 n place = digit64 m place ↔ n / 64 ^ place % 64 = m / 64 ^ place % 64
  := by
  have distinct : digits64.Nodup := by decide
  rw [digit64_eq_getElem n place (mod_lt_length_digits64 _),
    digit64_eq_getElem m place (mod_lt_length_digits64 _), distinct.getElem_inj_iff]

/-- Numbers with the same digits are the same. -/
theorem eq_of_digit64_eq (count : Nat) (hn : n < 64 ^ count) (hm : m < 64 ^ count)
    (same : ∀ place < count, digit64 n place = digit64 m place) :
  n = m
  := by
  have lowest : ∀ low ≤ count, n % 64 ^ low = m % 64 ^ low := by
    intro low within
    induction low with
    | zero => rw [Nat.pow_zero, Nat.mod_one, Nat.mod_one]
    | succ low ih =>
      rw [Nat.mod_pow_succ, Nat.mod_pow_succ, ih (by omega),
        digit64_eq_iff.mp (same low (by omega))]
  have whole := lowest count (Nat.le_refl count)
  rwa [Nat.mod_eq_of_lt hn, Nat.mod_eq_of_lt hm] at whole

end

/-! ### Octets -/

/-- Octets that are written alike are the same. -/
theorem base64_injective {bytes bytes' : Octets} (h : base64 bytes = base64 bytes') :
  bytes = bytes'
  := by
  -- groups of different length differ in padding, which no digit is
  induction bytes using base64.induct generalizing bytes' with
  | case1 a b c rest ih =>
    match bytes' with
    | [] => simp [base64] at h
    | [a'] => simp [base64] at h
    | [a', b'] => simp [base64] at h
    | a' :: b' :: c' :: rest' =>
      simp only [base64, List.cons.injEq] at h
      obtain ⟨third, second, first, zeroth, h⟩ := h
      have ha := a.toNat_lt
      have hb := b.toNat_lt
      have hc := c.toNat_lt
      have ha' := a'.toNat_lt
      have hb' := b'.toNat_lt
      have hc' := c'.toNat_lt
      have same : (a.toNat * 256 + b.toNat) * 256 + c.toNat
          = (a'.toNat * 256 + b'.toNat) * 256 + c'.toNat := by
        apply eq_of_digit64_eq 4 (by omega) (by omega)
        intro place within
        interval_cases place <;> assumption
      have octets : a = a' ∧ b = b' ∧ c = c' := by
        simp only [← UInt8.toNat_inj]
        omega
      obtain ⟨rfl, rfl, rfl⟩ := octets
      rw [ih h]
  | case2 a b =>
    match bytes' with
    | [] => simp [base64] at h
    | [a'] => simp [base64] at h
    | [a', b'] =>
      simp only [base64, List.cons.injEq, and_true] at h
      obtain ⟨second, first, zeroth⟩ := h
      have ha := a.toNat_lt
      have hb := b.toNat_lt
      have ha' := a'.toNat_lt
      have hb' := b'.toNat_lt
      have same : (a.toNat * 256 + b.toNat) * 4 = (a'.toNat * 256 + b'.toNat) * 4 := by
        apply eq_of_digit64_eq 3 (by omega) (by omega)
        intro place within
        interval_cases place <;> assumption
      have octets : a = a' ∧ b = b' := by
        simp only [← UInt8.toNat_inj]
        omega
      obtain ⟨rfl, rfl⟩ := octets
      rfl
    | a' :: b' :: c' :: rest' => simp [base64] at h
  | case3 a =>
    match bytes' with
    | [] => simp [base64] at h
    | [a'] =>
      simp only [base64, List.cons.injEq, and_true] at h
      obtain ⟨first, zeroth⟩ := h
      have ha := a.toNat_lt
      have ha' := a'.toNat_lt
      have same : a.toNat * 16 = a'.toNat * 16 := by
        apply eq_of_digit64_eq 2 (by omega) (by omega)
        intro place within
        interval_cases place <;> assumption
      have octet : a = a' := by
        rw [← UInt8.toNat_inj]
        omega
      rw [octet]
    | [a', b'] => simp [base64] at h
    | a' :: b' :: c' :: rest' => simp [base64] at h
  | case4 =>
    match bytes' with
    | [] => rfl
    | [a'] => simp [base64] at h
    | [a', b'] => simp [base64] at h
    | a' :: b' :: c' :: rest' => simp [base64] at h

end OlapClient.Http
