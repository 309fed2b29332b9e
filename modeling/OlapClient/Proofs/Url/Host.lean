import Mathlib.Tactic.Ring
import OlapClient.Proofs.Url.Domain.Label
import OlapClient.Proofs.Url.Reading

/-!
# Hosts read again

A host that was read is read again as itself: an address has one text, and the labels of a domain
name are read from what they are written as.  There is one exception.  A label beyond ASCII may be
written longer than any label that is read from its ASCII form, and then it is not read again.
-/

namespace OlapClient.Url

open OlapClient.Number
open OlapClient.Text
open Domain (isForbidden readLabel writeLabel asciiMark longestForm)

/-! ### Hosts within an authority -/

section

variable {host : List Char}

/-- A host without colons and brackets ends where its port begins. -/
theorem cutPort_of_plain
    (plain : ∀ c ∈ host, c ≠ ':' ∧ c ≠ '[' ∧ c ≠ ']') (port : Option (List Char)) :
  cutPort false (host ++ port.elim [] (':' :: ·)) = (host, port)
  := by
  induction host with
  | nil => cases port <;> rfl
  | cons c host ih =>
    obtain ⟨colon, left, right⟩ := plain c List.mem_cons_self
    rw [List.cons_append, cutPort, if_neg (by simp [colon]), if_neg left, if_neg right,
      ih fun d hd => plain d (List.mem_cons_of_mem _ hd)]

/-- What stands between brackets may have colons. -/
theorem cutPort_of_bracketed
    (plain : ∀ c ∈ host, c ≠ '[' ∧ c ≠ ']') (port : Option (List Char)) :
  cutPort false ('[' :: host ++ [']'] ++ port.elim [] (':' :: ·)) = ('[' :: host ++ [']'], port)
  := by
  have inner : ∀ {cs : List Char}, (∀ c ∈ cs, c ≠ '[' ∧ c ≠ ']') →
      cutPort true (cs ++ ([']'] ++ port.elim [] (':' :: ·))) = (cs ++ [']'], port) := by
    intro cs plain
    induction cs with
    | nil => cases port <;> rfl
    | cons c cs ih =>
      obtain ⟨left, right⟩ := plain c List.mem_cons_self
      rw [List.cons_append, cutPort, if_neg (by simp), if_neg left, if_neg right,
        ih fun d hd => plain d (List.mem_cons_of_mem _ hd)]
      rfl
  rw [List.append_assoc, List.cons_append, cutPort, if_neg (by decide), if_pos rfl, inner plain]
  rfl

end

/-! ### Addresses -/

/-- A character of an IPv6 address. -/
theorem of_mem_ipv6Text
    {groups : List Nat} {c : Char} (h : c ∈ ipv6Text groups) :
  c = ':' ∨ ∃ g, c ∈ groupText g
  := by
  have joined : ∀ {groups : List Nat}, c ∈ joinBy ':' (groups.map groupText) →
      c = ':' ∨ ∃ g, c ∈ groupText g := by
    intro groups h
    rcases mem_joinBy h with rfl | ⟨part, listed, hc⟩
    · exact .inl rfl
    · obtain ⟨g, -, rfl⟩ := List.mem_map.mp listed
      exact .inr ⟨g, hc⟩
  simp only [ipv6Text] at h
  split at h
  · exact joined h
  · rcases List.mem_append.mp h with h | h
    · exact joined h
    · rcases List.mem_cons.mp h with rfl | h
      · exact .inl rfl
      · rcases List.mem_cons.mp h with rfl | h
        · exact .inl rfl
        · exact joined h

theorem plain_of_mem_ipv6Text
    {groups : List Nat} {c : Char} (h : c ∈ ipv6Text groups) :
  boundsHost c = false ∧ c ≠ '[' ∧ c ≠ ']'
  := by
  rcases of_mem_ipv6Text h with rfl | ⟨g, hc⟩
  · decide
  · obtain ⟨d, small, rfl⟩ := exists_digitChar_of_mem_groupText hc
    have all : ∀ d < 16, boundsHost (Nat.digitChar d) = false ∧ Nat.digitChar d ≠ '['
        ∧ Nat.digitChar d ≠ ']' := by
      decide
    exact all d small

theorem isHostText_ipv6 (groups : List Nat) :
  IsHostText ('[' :: ipv6Text groups ++ [']'])
  := by
  have plain : ∀ c ∈ ipv6Text groups, c ≠ '[' ∧ c ≠ ']' :=
    fun c hc => (plain_of_mem_ipv6Text hc).2
  constructor
  · simp
  · intro c hc
    simp only [List.cons_append, List.mem_cons, List.mem_append, List.not_mem_nil, or_false] at hc
    rcases hc with rfl | hc | rfl
    · decide
    · exact (plain_of_mem_ipv6Text hc).1
    · decide
  · have cut := cutPort_of_bracketed plain none
    rwa [Option.elim, List.append_nil] at cut
  · exact fun rest => cutPort_of_bracketed plain (some rest)

/-- An IPv6 address between brackets is read as itself. -/
theorem readHost_ipv6
    {groups : List Nat} (h : IsGroups groups) :
  readHost ('[' :: ipv6Text groups ++ [']']) = .ok ('[' :: ipv6Text groups ++ [']'])
  := by
  have starts : ('[' :: ipv6Text groups ++ [']']).head? = some '[' := rfl
  rw [readHost, if_pos starts, readBracketed, List.cons_append, betweenBrackets,
    List.getLast?_concat, if_pos rfl, List.dropLast_concat]
  simp only [readIpv6_ipv6Text h]
  rfl

/-! ### Names -/

/-- A character that a domain name may have does not end the host. -/
theorem plain_of_allowed
    {c : Char} (ascii : c.toNat < 0x80) (allowed : isForbidden c = false) :
  boundsHost c = false ∧ (c ≠ ':' ∧ c ≠ '[' ∧ c ≠ ']') ∧ c ≠ '%'
  := by
  have all : ∀ n < 128, isForbidden (Char.ofNat n) = false → boundsHost (Char.ofNat n) = false
      ∧ (Char.ofNat n ≠ ':' ∧ Char.ofNat n ≠ '[' ∧ Char.ofNat n ≠ ']') ∧ Char.ofNat n ≠ '%' := by
    decide
  have holds := all c.toNat ascii
  rw [Char.ofNat_toNat] at holds
  exact holds allowed

/-- A host of characters that a domain name may have is read as the domain name that it names. -/
theorem readHost_of_allowed
    {host : List Char} (allowed : ∀ c ∈ host, c.toNat < 0x80 ∧ isForbidden c = false) :
  readHost host = match domainToAscii host with
    | none => .error .invalidDomainName
    | some [] => .error .emptyHost
    | some domain => if endsInNumber domain then (readIpv4 domain).map ipv4Text else .ok domain
  := by
  have plain : ∀ c ∈ host, c ≠ '[' ∧ c ≠ '%' := by
    intro c hc
    obtain ⟨-, ⟨-, left, -⟩, percent⟩ := plain_of_allowed (allowed c hc).1 (allowed c hc).2
    exact ⟨left, percent⟩
  have open_ : host.head? ≠ some '[' := by
    intro starts
    exact (plain _ (List.mem_of_head? starts)).1 rfl
  have whole : '%' ∉ host := fun member => (plain _ member).2 rfl
  rw [readHost, if_neg open_, percentDecode_encode whole, decode?, decode_encode,
    characters?_map_some]
  rfl

/-- A host that is the domain name which it names is read as that name or as an address. -/
theorem readHost_of_domainToAscii
    {host : List Char} (allowed : ∀ c ∈ host, c.toNat < 0x80 ∧ isForbidden c = false)
    (name : domainToAscii host = some host) (some_char : host ≠ []) :
  readHost host = if endsInNumber host then (readIpv4 host).map ipv4Text else .ok host
  := by
  rw [readHost_of_allowed allowed, name]
  split
  · contradiction
  · rename_i none
    cases none
    exact absurd rfl some_char
  · rename_i found
    cases found
    rfl

/-- A host of characters that a domain name may have stands in a URL as it is. -/
theorem isHostText_of_allowed
    {host : List Char} (allowed : ∀ c ∈ host, c.toNat < 0x80 ∧ isForbidden c = false)
    (some_char : host ≠ []) :
  IsHostText host
  := by
  have plain : ∀ c ∈ host, boundsHost c = false ∧ (c ≠ ':' ∧ c ≠ '[' ∧ c ≠ ']') ∧ c ≠ '%' :=
    fun c hc => plain_of_allowed (allowed c hc).1 (allowed c hc).2
  have apart : ∀ c ∈ host, c ≠ ':' ∧ c ≠ '[' ∧ c ≠ ']' := fun c hc => (plain c hc).2.1
  constructor
  · exact some_char
  · exact fun c hc => (plain c hc).1
  · have cut := cutPort_of_plain apart none
    rwa [Option.elim, List.append_nil] at cut
  · exact fun rest => cutPort_of_plain apart (some rest)

theorem allowed_stop :
  '.'.toNat < 0x80 ∧ isForbidden '.' = false
  := by decide

section

variable {address : Nat}

theorem isDigit_of_mem_octets
    {label : List Char} {c : Char}
    (hl : label ∈ [3, 2, 1, 0].map fun i => decimalDigits (address / 256 ^ i % 256))
    (hc : c ∈ label) :
  isDigit c
  := by
  obtain ⟨i, -, rfl⟩ := List.mem_map.mp hl
  exact isDigit_of_mem_decimalDigits hc

theorem allowed_of_mem_ipv4Text
    {c : Char} (hc : c ∈ ipv4Text address) :
  c.toNat < 0x80 ∧ isForbidden c = false
  := by
  rcases mem_joinBy hc with rfl | ⟨label, hl, hc⟩
  · exact allowed_stop
  · have form := Domain.isFormCharacter_of_isDigit (isDigit_of_mem_octets hl hc)
    exact ⟨Domain.ascii_of_isFormCharacter form, (Domain.plain_of_isFormCharacter form).2.2⟩

theorem ipv4Text_ne_nil :
  ipv4Text address ≠ []
  := by
  rw [ipv4Text, List.map_cons, List.map_cons, joinBy_cons_cons]
  simp

/-- An IPv4 address is read as itself. -/
theorem readHost_ipv4
    (bound : address < 2 ^ 32) :
  readHost (ipv4Text address) = .ok (ipv4Text address)
  := by
  have name : domainToAscii (ipv4Text address) = some (ipv4Text address) := by
    apply Domain.domainToAscii_of_form (by simp)
    · exact fun label hl c hc => Domain.isFormCharacter_of_isDigit (isDigit_of_mem_octets hl hc)
    · exact fun label hl => Domain.not_isPrefixOf_digits fun c => isDigit_of_mem_octets hl
  rw [readHost_of_domainToAscii (fun c => allowed_of_mem_ipv4Text) name ipv4Text_ne_nil,
    endsInNumber_ipv4Text, if_pos rfl, readIpv4_ipv4Text bound]
  rfl

end

/-! ### Hosts that were read -/

/-- No label in ASCII form is longer than one that is read may be. -/
def isWithinLimit (host : List Char) : Bool :=
  (splitBy '.' host).all fun label =>
    !asciiMark.isPrefixOf label || label.length ≤ asciiMark.length + longestForm

/-- What a host can be: an address, or the labels of a domain name. -/
theorem readHost_cases
    {written host : List Char} (read : readHost written = .ok host) :
  (∃ groups, IsGroups groups ∧ host = '[' :: ipv6Text groups ++ [']'])
    ∨ (∃ address < 2 ^ 32, host = ipv4Text address)
    ∨ ∃ cs labels, readDomain cs = some labels ∧ host = joinBy '.' (labels.map writeLabel)
      ∧ host ≠ [] ∧ endsInNumber host = false
  := by
  rw [readHost] at read
  split at read
  · rw [readBracketed] at read
    split at read
    · obtain ⟨groups, inner, rfl⟩ := map_eq_ok_iff.mp read
      exact .inl ⟨groups, isGroups_of_readIpv6 inner, rfl⟩
    · cases read
  · split at read
    · cases read
    · cases read
    · rename_i domain some_char found
      split at read
      · obtain ⟨address, number, rfl⟩ := map_eq_ok_iff.mp read
        exact .inr (.inl ⟨address, readIpv4_lt number, rfl⟩)
      · rename_i name
        cases read
        obtain ⟨cs, -, found⟩ := Option.bind_eq_some_iff.mp found
        obtain ⟨labels, labels_read, rfl⟩ := Option.map_eq_some_iff.mp found
        exact .inr (.inr ⟨cs, labels, labels_read, rfl, some_char, by simpa using name⟩)

section

variable {cs : List Char} {labels : List (List Char)} (read : readDomain cs = some labels)
include read

theorem allowed_of_mem_domain
    {c : Char} (hc : c ∈ joinBy '.' (labels.map writeLabel)) :
  c.toNat < 0x80 ∧ isForbidden c = false
  := by
  obtain ⟨-, -, -, valid, -⟩ := Domain.readDomain_eq_some_iff.mp read
  rcases Domain.of_mem_written hc with rfl | ⟨label, hl, hc⟩
  · exact allowed_stop
  · exact ⟨Domain.ascii_of_mem_writeLabel hc,
      Domain.isForbidden_of_mem_writeLabel (valid label hl) hc⟩

/-- A domain name within the limit is one whose labels beyond ASCII are written short enough. -/
theorem isWithinLimit_domain :
  isWithinLimit (joinBy '.' (labels.map writeLabel))
    ↔ ∀ label ∈ labels, ¬Domain.isAscii label → (Punycode.encode label).length ≤ longestForm
  := by
  rw [isWithinLimit, Domain.splitBy_written read, List.all_map, List.all_eq_true]
  apply forall₂_congr
  intro label hl
  have settled := Domain.isSettled_of_readDomain read hl
  by_cases ascii : Domain.isAscii label
  · have same : writeLabel label = label := if_pos ascii
    simp [same, ascii, settled.unmarked]
  · have form : writeLabel label = asciiMark ++ Punycode.encode label := if_neg ascii
    simp [form, ascii]

end

/-- A host that was read stands in a URL as it is. -/
theorem isHostText_of_readHost
    {written host : List Char} (read : readHost written = .ok host) :
  IsHostText host
  := by
  rcases readHost_cases read with ⟨groups, -, rfl⟩ | ⟨address, -, rfl⟩
    | ⟨cs, labels, labels_read, rfl, some_char, -⟩
  · exact isHostText_ipv6 groups
  · exact isHostText_of_allowed (fun c => allowed_of_mem_ipv4Text) ipv4Text_ne_nil
  · exact isHostText_of_allowed (fun c => allowed_of_mem_domain labels_read) some_char

theorem isWithinLimit_ipv6 (groups : List Nat) :
  isWithinLimit ('[' :: ipv6Text groups ++ [']'])
  := by
  have apart : '.' ∉ '[' :: ipv6Text groups ++ [']'] := by
    simp only [List.cons_append, List.mem_cons, List.mem_append, List.not_mem_nil, or_false]
    rintro (stop | member | stop)
    · exact absurd stop (by decide)
    · rcases of_mem_ipv6Text member with stop | ⟨g, hc⟩
      · exact absurd stop (by decide)
      · exact absurd (isHex_of_mem_groupText hc) (by decide)
    · exact absurd stop (by decide)
  rw [isWithinLimit, splitBy_of_not_mem apart, List.all_cons, List.all_nil, Bool.and_true]
  rfl

theorem isWithinLimit_ipv4 (address : Nat) :
  isWithinLimit (ipv4Text address)
  := by
  rw [isWithinLimit, splitBy_ipv4Text, List.all_eq_true]
  intro label hl
  have unmarked := Domain.not_isPrefixOf_digits fun c => isDigit_of_mem_octets hl
  simp [unmarked]

/-- A host that was read is read again as itself, unless a label of it is too long in ASCII form. -/
theorem readHost_readHost
    {written host : List Char} (read : readHost written = .ok host) :
  readHost host = if isWithinLimit host then .ok host else .error .invalidDomainName
  := by
  rcases readHost_cases read with ⟨groups, h, rfl⟩ | ⟨address, bound, rfl⟩
    | ⟨cs, labels, labels_read, rfl, some_char, name⟩
  · rw [isWithinLimit_ipv6, readHost_ipv6 h, if_pos rfl]
  · rw [isWithinLimit_ipv4, readHost_ipv4 bound, if_pos rfl]
  · have allowed : ∀ c ∈ joinBy '.' (labels.map writeLabel), c.toNat < 0x80 ∧ isForbidden c = false :=
      fun c => allowed_of_mem_domain labels_read
    split
    · rename_i limit
      have again := Domain.readDomain_written labels_read
        ((isWithinLimit_domain labels_read).mp limit)
      rw [readHost_of_domainToAscii allowed (by rw [domainToAscii, again, Option.map_some])
        some_char, name, if_neg Bool.false_ne_true]
    · rename_i long
      have none : readDomain (joinBy '.' (labels.map writeLabel)) = none := by
        rw [Option.eq_none_iff_forall_ne_some]
        intro read again
        apply long
        rw [isWithinLimit_domain labels_read]
        intro label hl
        exact Domain.length_encode_le_of_readDomain_written labels_read again hl
      rw [readHost_of_allowed allowed, domainToAscii, none]
      rfl

end OlapClient.Url
