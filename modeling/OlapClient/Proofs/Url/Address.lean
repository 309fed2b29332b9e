import Mathlib.Data.List.Induction
import Mathlib.Tactic.Common
import OlapClient.Proofs.Number.Numeral
import OlapClient.Proofs.Results
import OlapClient.Proofs.Url.Percent
import OlapClient.Url.Address

/-!
# Network addresses read back

The one form in which an address is written is read as that address.  In an IPv6 address the run of
zero groups that is left out is put in again: where it stands, the reader holds a gap, and
`fillGap` makes as many zeros of it as are missing from eight groups.
-/

namespace OlapClient.Url

open OlapClient.Number
open OlapClient.Text

/-! ### Digits of a group -/

theorem exists_digitChar_of_mem_groupText {g : Nat} {c : Char} (h : c ∈ groupText g) :
  ∃ d < 16, c = Nat.digitChar d
  := by
  induction g using Nat.strongRecOn with
  | ind g ih =>
    rw [groupText, Nat.toDigits_eq_if (by decide)] at h
    split at h
    · rename_i small
      rw [List.mem_singleton] at h
      exact ⟨g, small, h⟩
    · rcases List.mem_append.mp h with h | h
      · apply ih (g / 16) (by omega) h
      · rw [List.mem_singleton] at h
        exact ⟨g % 16, by omega, h⟩

theorem digit?_digitChar {d : Nat} (small : d < 16) :
  digit? 16 (Nat.digitChar d) = some d
  := by
  have all : ∀ d < 16, digit? 16 (Nat.digitChar d) = some d := by decide
  apply all d small

theorem valueIn_concat (radix : Nat) (cs : List Char) (c : Char) :
  valueIn radix (cs ++ [c])
    = (valueIn radix cs).bind fun n => (digit? radix c).map (n * radix + ·)
  := by
  rw [valueIn, List.foldlM_append]
  simp only [List.foldlM_cons, List.foldlM_nil, bind_pure, Option.bind_eq_bind]
  rfl

/-- The digits of a number make the number. -/
theorem valueIn_toDigits {radix : Nat} (big : 1 < radix)
    (digits : ∀ d < radix, digit? radix (Nat.digitChar d) = some d) (n : Nat) :
  valueIn radix (Nat.toDigits radix n) = some n
  := by
  induction n using Nat.strongRecOn with
  | ind n ih =>
    rw [Nat.toDigits_eq_if big]
    split
    · rename_i small
      rw [← List.nil_append [Nat.digitChar n], valueIn_concat, digits n small]
      simp [valueIn]
    · have less : n / radix < n := Nat.div_lt_self (by omega) big
      rw [valueIn_concat, ih _ less, digits _ (Nat.mod_lt _ (by omega))]
      simp [Nat.div_add_mod']

theorem valueIn_groupText (g : Nat) :
  valueIn 16 (groupText g) = some g
  := valueIn_toDigits (by decide) (by decide) g

theorem valueIn_decimalDigits (n : Nat) :
  valueIn 10 (decimalDigits n) = some n
  := valueIn_toDigits (by decide) (by decide) n

theorem groupText_ne_nil (g : Nat) :
  groupText g ≠ []
  := Nat.toDigits_ne_nil

theorem length_groupText_le {g : Nat} (small : g < 65536) :
  (groupText g).length ≤ 4
  := (Nat.length_toDigits_le_iff (by decide) (by decide)).mpr small

theorem isHex_of_mem_groupText {g : Nat} {c : Char} (h : c ∈ groupText g) :
  (digit? 16 c).isSome
  := by
  obtain ⟨d, small, rfl⟩ := exists_digitChar_of_mem_groupText h
  rw [digit?_digitChar small]
  rfl

theorem colon_not_mem_groupText (g : Nat) :
  ':' ∉ groupText g
  := by
  intro h
  exact absurd (isHex_of_mem_groupText h) (by decide)

/-! ### IPv4 -/

theorem ipv4OfNumbers_eq {a b c d : Nat} (ha : a < 256) (hb : b < 256) (hc : c < 256)
    (hd : d < 256) :
  ipv4OfNumbers [a, b, c, d] = some (((a * 256 + b) * 256 + c) * 256 + d)
  := by
  have small : a ≤ 255 ∧ b ≤ 255 ∧ c ≤ 255 := by omega
  simp [ipv4OfNumbers, small, hd]

/-- The octets of an address make the address. -/
theorem ipv4OfNumbers_octets {address : Nat} (bound : address < 2 ^ 32) :
  ipv4OfNumbers ([3, 2, 1, 0].map fun i => address / 256 ^ i % 256) = some address
  := by
  have octet (i : Nat) : address / 256 ^ i % 256 < 256 := Nat.mod_lt _ (by decide)
  simp only [List.map_cons, List.map_nil]
  rw [ipv4OfNumbers_eq (octet 3) (octet 2) (octet 1) (octet 0)]
  congr 1
  omega

theorem readIpv4Number_decimalDigits {n : Nat} (small : n < 256) :
  readIpv4Number (decimalDigits n) = some n
  := by
  have all : ∀ n < 256, readIpv4Number (decimalDigits n) = some n := by decide +kernel
  apply all n small

theorem point_not_mem_decimalDigits (n : Nat) :
  '.' ∉ decimalDigits n
  := by
  intro h
  exact absurd (isDigit_of_mem_decimalDigits h) (by decide)

theorem splitBy_ipv4Text (address : Nat) :
  splitBy '.' (ipv4Text address)
    = [3, 2, 1, 0].map fun i => decimalDigits (address / 256 ^ i % 256)
  := by
  apply splitBy_joinBy (by simp)
  intro part listed
  obtain ⟨i, -, rfl⟩ := List.mem_map.mp listed
  apply point_not_mem_decimalDigits

/-- An IPv4 address is read from its text. -/
theorem readIpv4_ipv4Text {address : Nat} (bound : address < 2 ^ 32) :
  readIpv4 (ipv4Text address) = .ok address
  := by
  have whole : ([3, 2, 1, 0].map fun i => decimalDigits (address / 256 ^ i % 256)).mapM
      readIpv4Number = some ([3, 2, 1, 0].map fun i => address / 256 ^ i % 256) := by
    have octet (i : Nat) : readIpv4Number (decimalDigits (address / 256 ^ i % 256))
        = some (address / 256 ^ i % 256) :=
      readIpv4Number_decimalDigits (Nat.mod_lt _ (by decide))
    simp only [List.map_cons, List.map_nil, List.mapM_cons, List.mapM_nil, octet]
    rfl
  have last : ([3, 2, 1, 0].map fun i => decimalDigits (address / 256 ^ i % 256)).getLast?
      ≠ some [] := by
    simpa using decimalDigits_ne_nil _
  rw [readIpv4, splitBy_ipv4Text]
  simp only [if_neg last, whole, Option.bind_some, ipv4OfNumbers_octets bound]

/-- The text of an address is taken for one. -/
theorem endsInNumber_ipv4Text (address : Nat) :
  endsInNumber (ipv4Text address)
  := by
  have some_digit : decimalDigits (address / 256 ^ 0 % 256) ≠ [] := decimalDigits_ne_nil _
  have digits : ∀ c ∈ decimalDigits (address / 256 ^ 0 % 256), (digit? 10 c).isSome := by
    intro c hc
    rw [digit?_of_isDigit (isDigit_of_mem_decimalDigits hc)]
    rfl
  rw [endsInNumber, splitBy_ipv4Text]
  simp only [List.map_cons, List.map_nil, List.reverse_cons, List.reverse_nil, List.nil_append,
    List.cons_append]
  generalize decimalDigits (address / 256 ^ 0 % 256) = last at some_digit digits
  cases last with
  | nil => contradiction
  | cons c last => simp_all

theorem ipv4OfNumbers_lt {numbers : List Nat} {address : Nat}
    (h : ipv4OfNumbers numbers = some address) :
  address < 2 ^ 32
  := by
  rw [ipv4OfNumbers] at h
  split at h
  · cases h
  · rename_i last leading _
    simp only [Option.ite_none_right_eq_some, Option.some.injEq] at h
    generalize leading.reverse = leading at h
    obtain ⟨⟨small, few, rest⟩, rfl⟩ := h
    -- The leading numbers are octets, and there are at most three of them.
    rcases leading with _ | ⟨a, _ | ⟨b, _ | ⟨c, _ | ⟨d, more⟩⟩⟩⟩
    all_goals
      simp only [List.all_cons, List.all_nil, Bool.and_eq_true, decide_eq_true_eq,
        List.length_cons, List.length_nil, List.foldl_cons, List.foldl_nil, Nat.reduceAdd,
        Nat.reduceSub, Nat.reducePow] at small few rest ⊢
      omega

theorem readIpv4_lt {cs : List Char} {address : Nat} (read : readIpv4 cs = .ok address) :
  address < 2 ^ 32
  := by
  rw [readIpv4] at read
  split at read
  · rename_i found
    cases read
    obtain ⟨numbers, -, found⟩ := Option.bind_eq_some_iff.mp found
    apply ipv4OfNumbers_lt found
  · cases read

/-! ### IPv6 -/

/-- The groups of an address. -/
def IsGroups (groups : List Nat) : Prop :=
  groups.length = 8 ∧ ∀ g ∈ groups, g < 65536

theorem takeWhile_groupText {g : Nat} (small : g < 65536) {rest : List Char}
    (ends : ∀ c ∈ rest.head?, (digit? 16 c).isSome = false) :
  ((groupText g ++ rest).take 4).takeWhile (fun c => (digit? 16 c).isSome) = groupText g
  := by
  have short := length_groupText_le small
  have digits : ∀ c ∈ groupText g, (digit? 16 c).isSome := fun c => isHex_of_mem_groupText
  rw [List.take_append, List.take_of_length_le short, List.takeWhile_append_of_pos digits]
  cases rest with
  | nil => simp
  | cons c rest =>
    have stop := ends c (by simp)
    cases 4 - (groupText g).length <;> simp [stop]

/-- A group is read up to the end of the text. -/
theorem readGroups_last
    {state : Ipv6State} (room : state.groups.length < 8) {g : Nat} (small : g < 65536) :
  readGroups state (groupText g) = some ⟨g :: state.groups, state.gap⟩
  := by
  obtain ⟨c, digits, whole⟩ := List.exists_cons_of_ne_nil (groupText_ne_nil g)
  have hex := isHex_of_mem_groupText (g := g) (c := c) (by simp [whole])
  have taken := takeWhile_groupText small (by simp : ∀ c ∈ ([] : List Char).head?, _)
  have value := valueIn_groupText g
  rw [List.append_nil] at taken
  rw [whole] at taken value ⊢
  rw [readGroups, if_neg (by omega)]
  · simp only [taken, value, Option.getD_some]
    split <;> rename_i found
    · rfl
    all_goals rw [taken, List.drop_length] at found
    · cases found
    · cases found
    · simp_all
  · rintro rfl
    exact absurd hex (by decide)

/-- A group is read up to the colon behind it, behind which something has to follow. -/
theorem readGroups_append
    {state : Ipv6State} (room : state.groups.length < 8) {g : Nat} (small : g < 65536)
    {rest : List Char} (more : rest ≠ []) :
  readGroups state (groupText g ++ ':' :: rest) = readGroups ⟨g :: state.groups, state.gap⟩ rest
  := by
  obtain ⟨c, digits, whole⟩ := List.exists_cons_of_ne_nil (groupText_ne_nil g)
  have hex := isHex_of_mem_groupText (g := g) (c := c) (by simp [whole])
  have stop : ∀ c ∈ (':' :: rest).head?, (digit? 16 c).isSome = false := by
    simp [show digit? 16 ':' = none by decide]
  have taken := takeWhile_groupText small stop
  have value := valueIn_groupText g
  have dropped : (groupText g ++ ':' :: rest).drop (groupText g).length = ':' :: rest :=
    List.drop_left
  rw [whole] at taken value dropped ⊢
  rw [List.cons_append] at taken dropped ⊢
  rw [readGroups, if_neg (by omega)]
  · simp only [taken, value, Option.getD_some]
    split <;> rename_i found
    all_goals rw [taken, dropped] at found
    · cases found
    · cases found
    · cases found
      simp [more]
    · simp at found
  · rintro rfl
    exact absurd hex (by decide)

theorem joinBy_groupText_ne_nil (g : Nat) (groups : List Nat) :
  joinBy ':' ((g :: groups).map groupText) ≠ []
  := by
  cases groups with
  | nil => apply groupText_ne_nil
  | cons next groups =>
    rw [List.map_cons, List.map_cons, joinBy_cons_cons]
    simp

/-- Groups with colons between them are read up to the end of the text. -/
theorem readGroups_joinBy {state : Ipv6State} {groups : List Nat} (some_group : groups ≠ [])
    (room : state.groups.length + groups.length ≤ 8) (small : ∀ g ∈ groups, g < 65536) :
  readGroups state (joinBy ':' (groups.map groupText))
    = some ⟨groups.reverse ++ state.groups, state.gap⟩
  := by
  induction groups generalizing state with
  | nil => contradiction
  | cons g groups ih =>
    rw [List.length_cons] at room
    have hg := small g (by simp)
    cases groups with
    | nil => apply readGroups_last (by omega) hg
    | cons next groups =>
      have later := @ih ⟨g :: state.groups, state.gap⟩ (by simp)
        (by simp at room ⊢; omega) fun g hg => small g (List.mem_cons_of_mem _ hg)
      rw [List.map_cons, List.map_cons, joinBy_cons_cons, ← List.map_cons,
        readGroups_append (by omega) hg (joinBy_groupText_ne_nil next groups), later]
      simp

/-- Behind groups that are followed by two colons there is a gap. -/
theorem readGroups_gap {state : Ipv6State} (no_gap : state.gap = none) {groups : List Nat}
    (some_group : groups ≠ []) (room : state.groups.length + groups.length < 8)
    (small : ∀ g ∈ groups, g < 65536) (rest : List Char) :
  readGroups state (joinBy ':' (groups.map groupText) ++ ':' :: ':' :: rest)
    = readGroups ⟨0 :: (groups.reverse ++ state.groups),
        some (state.groups.length + groups.length + 1)⟩ rest
  := by
  induction groups generalizing state with
  | nil => contradiction
  | cons g groups ih =>
    rw [List.length_cons] at room
    have hg := small g (by simp)
    cases groups with
    | nil =>
      have read := @readGroups_append state (by omega) _ hg _ (List.cons_ne_nil ':' rest)
      simp only [List.length_nil] at room
      rw [List.map_cons, List.map_nil, joinBy, read, readGroups, if_neg]
      · simp
      · simp only [List.length_cons, no_gap, Option.isSome_none, Bool.false_eq_true, or_false]
        omega
    | cons next groups =>
      have later := @ih ⟨g :: state.groups, state.gap⟩ no_gap (by simp)
        (by simp at room ⊢; omega) fun g hg => small g (List.mem_cons_of_mem _ hg)
      have more : joinBy ':' (groupText next :: groups.map groupText) ++ ':' :: ':' :: rest
          ≠ [] := by
        simp
      rw [List.map_cons, List.map_cons, joinBy_cons_cons, List.append_assoc, List.cons_append,
        readGroups_append (by omega) hg more, ← List.map_cons, later]
      have place : state.groups.length + 1 + (next :: groups).length + 1
          = state.groups.length + (g :: next :: groups).length + 1 := by
        simp only [List.length_cons]
        omega
      simp only [List.length_cons, List.reverse_cons, List.append_assoc, List.singleton_append]
        at place ⊢
      rw [place]
      simp

/-- The groups behind a gap are read to the end of the text, where there may be none. -/
theorem readGroups_rest {state : Ipv6State} {groups : List Nat}
    (room : state.groups.length + groups.length ≤ 8) (small : ∀ g ∈ groups, g < 65536) :
  readGroups state (joinBy ':' (groups.map groupText))
    = some ⟨groups.reverse ++ state.groups, state.gap⟩
  := by
  by_cases none : groups = []
  · subst none
    rw [List.map_nil, joinBy, readGroups]
    rfl
  · apply readGroups_joinBy none room small

/-- The first of the longest runs of zeros. -/
theorem longestRun_eq (groups : List Nat) (start : Nat) :
  ∃ before after, groups = before ++ List.replicate (longestRun start groups).2 0 ++ after
    ∧ (longestRun start groups).1 = start + before.length
  := by
  induction groups generalizing start with
  | nil => exact ⟨[], [], by simp [longestRun], by simp [longestRun]⟩
  | cons g groups ih =>
    rw [longestRun]
    split
    · refine ⟨[], (g :: groups).dropWhile (· == 0), ?_, by simp⟩
      have zeros : (g :: groups).takeWhile (· == 0)
          = List.replicate (zeroRun (g :: groups)) 0 := by
        rw [List.eq_replicate_iff]
        refine ⟨rfl, ?_⟩
        intro n hn
        simpa using List.all_takeWhile (p := (· == 0)) (l := g :: groups) |> List.all_eq_true.mp
          |> fun h => h n hn
      rw [List.nil_append, ← zeros, List.takeWhile_append_dropWhile]
    · obtain ⟨before, after, whole, place⟩ := ih (start + 1)
      refine ⟨g :: before, after, ?_, ?_⟩
      · rw [List.cons_append, List.cons_append, ← whole]
      · rw [place, List.length_cons]
        omega

theorem readIpv6_of_readGroups
    {cs : List Char} {groups : List Nat} (start : cs.head? ≠ some ':') (long : 2 ≤ cs.length)
    (read : (readGroups ⟨[], none⟩ cs).bind fillGap = some groups) :
  readIpv6 cs = .ok groups
  := by
  rcases cs with _ | ⟨c, _ | ⟨d, rest⟩⟩
  · simp at long
  · simp at long
  · have colon : c ≠ ':' := by simpa using start
    rw [readIpv6]
    · simp only [read]
    · rintro rest' h
      exact colon (List.head_eq_of_cons_eq h)
    · rintro rest' h
      exact colon (List.head_eq_of_cons_eq h)
    · simp
    · simp

theorem fillGap_some {front after : List Nat} (room : front.length + after.length ≤ 8) :
  fillGap ⟨(front ++ after).reverse, some front.length⟩
    = some (front ++ List.replicate (8 - (front.length + after.length)) 0 ++ after)
  := by
  rw [fillGap, List.reverse_reverse]
  simp only [List.take_left, List.drop_left, List.length_append]
  rw [if_neg (by omega)]

/-- The zeros that are left out are put in again. -/
theorem fillGap_zeros {before after : List Nat} {run : Nat}
    (length : before.length + run + after.length = 8) (some_zero : 0 < run) :
  fillGap ⟨after.reverse ++ 0 :: before.reverse, some (before.length + 1)⟩
    = some (before ++ List.replicate run 0 ++ after)
  := by
  have room : (before ++ [0]).length + after.length ≤ 8 := by
    simp only [List.length_append, List.length_singleton]
    omega
  have zeros : List.replicate run 0 = 0 :: List.replicate (run - 1) 0 := by
    rw [← List.replicate_succ]
    congr 1
    omega
  have missing : 8 - (before.length + 1 + after.length) = run - 1 := by omega
  have filled := fillGap_some room
  simp only [List.length_append, List.length_singleton, missing] at filled
  rw [zeros]
  simpa using filled

theorem head?_joinBy_ne {groups : List Nat} (some_group : groups ≠ []) (rest : List Char) :
  (joinBy ':' (groups.map groupText) ++ rest).head? ≠ some ':'
  := by
  obtain ⟨g, groups, rfl⟩ := List.exists_cons_of_ne_nil some_group
  obtain ⟨c, digits, whole⟩ := List.exists_cons_of_ne_nil (groupText_ne_nil g)
  have colon : c ≠ ':' := by
    rintro rfl
    apply colon_not_mem_groupText g
    simp [whole]
  cases groups with
  | nil => simpa [joinBy, whole] using colon
  | cons next groups =>
    rw [List.map_cons, List.map_cons, joinBy_cons_cons, whole]
    simpa using colon

/-- An IPv6 address is read from its text. -/
theorem readIpv6_ipv6Text {groups : List Nat} (h : IsGroups groups) :
  readIpv6 (ipv6Text groups) = .ok groups
  := by
  obtain ⟨length, small⟩ := h
  obtain ⟨before, after, whole, place⟩ := longestRun_eq groups 0
  rw [Nat.zero_add] at place
  rw [ipv6Text]
  generalize longestRun 0 groups = found at whole place
  obtain ⟨start, run⟩ := found
  simp only at whole place ⊢
  subst place
  split
  · have some_group : groups ≠ [] := by
      rintro rfl
      simp at length
    have start := head?_joinBy_ne some_group []
    rw [List.append_nil] at start
    apply readIpv6_of_readGroups start
    · obtain ⟨g, rest, rfl⟩ := List.exists_cons_of_ne_nil some_group
      cases rest with
      | nil => simp at length
      | cons next rest =>
        rw [List.map_cons, List.map_cons, joinBy_cons_cons]
        have some_digit := List.length_pos_iff.mpr (groupText_ne_nil g)
        simp only [List.length_append, List.length_cons]
        omega
    · rw [readGroups_joinBy some_group (by simp [length]) small]
      simp [fillGap, length]
  · rename_i long
    have taken : groups.take before.length = before := by
      rw [whole, List.append_assoc, List.take_left]
    have dropped : groups.drop (before.length + run) = after := by
      have front : before.length + run = (before ++ List.replicate run 0).length := by simp
      rw [front, whole, List.drop_left]
    have total : before.length + run + after.length = 8 := by
      rw [← length, whole]
      simp [Nat.add_assoc]
    have small_before : ∀ g ∈ before, g < 65536 := fun g hg => small g (by simp [whole, hg])
    have small_after : ∀ g ∈ after, g < 65536 := fun g hg => small g (by simp [whole, hg])
    have filled := fillGap_zeros total (by omega)
    rw [taken, dropped]
    rw [← whole] at filled
    by_cases none : before = []
    · subst none
      have rest := @readGroups_rest ⟨[0], some 1⟩ after
        (by simp at total ⊢; omega) small_after
      simp only [List.length_nil, Nat.zero_add, List.reverse_nil] at filled
      rw [List.map_nil, joinBy, List.nil_append, readIpv6, rest, Option.bind_some, filled]
    · apply readIpv6_of_readGroups (head?_joinBy_ne none _)
      · simp only [List.length_append, List.length_cons]
        omega
      · rw [readGroups_gap rfl none (by simp; omega) small_before,
          readGroups_rest (by simp; omega) small_after, Option.bind_some]
        simpa using filled

/-! ### Groups that were read -/

theorem valueIn_lt {radix : Nat} {cs : List Char} {n : Nat}
    (h : valueIn radix cs = some n) :
  n < radix ^ cs.length
  := by
  induction cs using List.reverseRecOn generalizing n with
  | nil =>
    cases h
    simp
  | append_singleton cs c ih =>
    rw [valueIn_concat, Option.bind_eq_some_iff] at h
    obtain ⟨m, front, h⟩ := h
    obtain ⟨d, digit, rfl⟩ := Option.map_eq_some_iff.mp h
    have bound := ih front
    have small : d < radix := by
      simp only [digit?, Option.ite_none_right_eq_some, Option.some.injEq] at digit
      omega
    rw [List.length_append, List.length_singleton, Nat.pow_succ]
    calc m * radix + d < (m + 1) * radix := by rw [Nat.add_mul]; omega
      _ ≤ radix ^ cs.length * radix := Nat.mul_le_mul_right _ bound

theorem readOctet_le {cs : List Char} {n : Nat} (h : readOctet cs = some n) :
  n ≤ 255
  := by
  unfold readOctet at h
  split at h
  · cases h
  · cases h
  · rw [Option.filter_eq_some_iff] at h
    simpa using h.2

theorem readLastGroups_lt {cs : List Char} {groups : List Nat}
    (h : readLastGroups cs = some groups) :
  ∀ g ∈ groups, g < 65536
  := by
  simp only [readLastGroups, Option.bind_eq_bind, Option.bind_eq_some_iff] at h
  obtain ⟨octets, read, h⟩ := h
  have small : ∀ n ∈ octets, n ≤ 255 := by
    intro n hn
    obtain ⟨cs, -, found⟩ := exists_of_mem_of_mapM_eq_some read hn
    apply readOctet_le found
  split at h
  · cases h
    rename_i a b c d
    have ha := small a (by simp)
    have hb := small b (by simp)
    have hc := small c (by simp)
    have hd := small d (by simp)
    simp only [List.mem_cons, List.not_mem_nil, or_false, forall_eq_or_imp, forall_eq]
    omega
  · cases h

theorem valueIn_digits_lt (cs : List Char) :
  (valueIn 16 ((cs.take 4).takeWhile fun c => (digit? 16 c).isSome)).getD 0 < 65536
  := by
  cases value : valueIn 16 ((cs.take 4).takeWhile fun c => (digit? 16 c).isSome) with
  | none => simp
  | some n =>
    have bound := valueIn_lt value
    have short : ((cs.take 4).takeWhile fun c => (digit? 16 c).isSome).length ≤ 4 :=
      Nat.le_trans (List.takeWhile_sublist _).length_le (List.length_take_le _ _)
    calc n < 16 ^ _ := bound
      _ ≤ 16 ^ 4 := Nat.pow_le_pow_right (by decide) short

theorem readGroups_lt {state last : Ipv6State} {cs : List Char}
    (small : ∀ g ∈ state.groups, g < 65536) (h : readGroups state cs = some last) :
  ∀ g ∈ last.groups, g < 65536
  := by
  fun_induction readGroups state cs with
  | case1 state =>
    cases h
    exact small
  | case2 => cases h
  | case3 state rest room ih =>
    apply ih _ h
    simpa using small
  | case4 => cases h
  | case5 state c rest _ _ digits =>
    cases h
    simp only [List.forall_mem_cons]
    exact ⟨valueIn_digits_lt _, small⟩
  | case6 => cases h
  | case7 state c rest _ _ _ _ _ _ =>
    obtain ⟨groups, read, rfl⟩ := Option.map_eq_some_iff.mp h
    have lasts := readLastGroups_lt read
    intro g hg
    rcases List.mem_append.mp hg with hg | hg
    · apply lasts g (by simpa using hg)
    · apply small g hg
  | case8 => cases h
  | case9 state c rest _ _ digits rest' _ _ ih =>
    apply ih _ h
    simp only [List.forall_mem_cons]
    exact ⟨valueIn_digits_lt _, small⟩
  | case10 => cases h

/-- What is read as an address is one. -/
theorem isGroups_of_readIpv6 {cs : List Char} {groups : List Nat}
    (h : readIpv6 cs = .ok groups) :
  IsGroups groups
  := by
  have filled {state : Ipv6State} (small : ∀ g ∈ state.groups, g < 65536) {cs : List Char}
      {groups : List Nat} (h : (readGroups state cs).bind fillGap = some groups) :
      IsGroups groups := by
    obtain ⟨last, read, h⟩ := Option.bind_eq_some_iff.mp h
    have small := readGroups_lt small read
    simp only [fillGap] at h
    split at h
    · simp only [Option.ite_none_left_eq_some, Option.some.injEq] at h
      obtain ⟨room, rfl⟩ := h
      constructor
      · simp only [List.length_append, List.length_take, List.length_replicate, List.length_drop]
        omega
      · intro g hg
        simp only [List.mem_append] at hg
        rcases hg with (hg | hg) | hg
        · apply small g (by simpa using List.mem_of_mem_take hg)
        · rw [List.eq_of_mem_replicate hg]
          decide
        · apply small g (by simpa using List.mem_of_mem_drop hg)
    · simp only [Option.ite_none_right_eq_some, Option.some.injEq] at h
      obtain ⟨length, rfl⟩ := h
      exact ⟨length, by simpa using small⟩
  simp only [readIpv6] at h
  split at h
  · rename_i found
    cases h
    split at found
    · apply filled (by simp) found
    · cases found
    · cases found
    · cases found
    · apply filled (by simp) found
  · cases h

end OlapClient.Url
