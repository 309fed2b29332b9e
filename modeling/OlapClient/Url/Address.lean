import OlapClient.Number.Digits
import OlapClient.Url.Fault
import OlapClient.Url.Percent

/-!
# Network addresses in URLs

An IPv4 address is one to four numbers separated by points, in decimal, octal or hexadecimal,
the last of which fills all the octets that are left.  An IPv6 address is eight groups of
hexadecimal digits, one run of zero groups of which may be left out; its last two groups may be
written as an IPv4 address.  Both are written back in one form only.
-/

namespace OlapClient.Url

open OlapClient.Number
open OlapClient.Text

/-! ### IPv4 -/

/-- The value of digits in a radix. -/
def valueIn (radix : Nat) (cs : List Char) : Option Nat :=
  cs.foldlM (fun n c => (digit? radix c).map (n * radix + ·)) 0

/-- A number of an IPv4 address. -/
def readIpv4Number (cs : List Char) : Option Nat :=
  match cs with
  | [] => none
  | '0' :: 'x' :: digits | '0' :: 'X' :: digits => valueIn 16 digits
  | '0' :: d :: digits => valueIn 8 (d :: digits)
  | digits => valueIn 10 digits

/-- A domain is written like an IPv4 address: its last part, a point at the end aside, is a
number. -/
def endsInNumber (cs : List Char) : Bool :=
  let parts := (splitBy '.' cs).reverse
  let last := match parts with
    | [] :: part :: _ => part
    | part :: _ => part
    | [] => []
  (!last.isEmpty && last.all fun c => (digit? 10 c).isSome) || (readIpv4Number last).isSome

/-- The address of numbers, the last of which fills the octets that are left. -/
def ipv4OfNumbers (numbers : List Nat) : Option Nat :=
  match numbers.reverse with
  | [] => none
  | last :: leading =>
    let leading := leading.reverse
    if leading.all (· ≤ 255) ∧ leading.length ≤ 3 ∧ last < 256 ^ (4 - leading.length) then
      some (leading.foldl (fun n part => n * 256 + part) 0 * 256 ^ (4 - leading.length) + last)
    else none

/-- Reads an IPv4 address. -/
def readIpv4 (cs : List Char) : Except UrlFault Nat :=
  let parts := splitBy '.' cs
  let parts := if parts.getLast? = some [] then parts.dropLast else parts
  match (parts.mapM readIpv4Number).bind ipv4OfNumbers with
  | some address => .ok address
  | none => .error .invalidIpv4

/-- An IPv4 address as four numbers. -/
def ipv4Text (address : Nat) : List Char :=
  joinBy '.' ([3, 2, 1, 0].map fun i => decimalDigits (address / 256 ^ i % 256))

/-! ### IPv6 -/

/-- The groups of an IPv6 address so far, latest first, and how many of them come before the
run of zero groups that is left out, if one is.  The first group of that run is written among
them. -/
structure Ipv6State where
  groups : List Nat
  gap : Option Nat
  deriving DecidableEq, Repr

/-- A number of the IPv4 form within an IPv6 address: no zero before other digits, and at most
255. -/
def readOctet (cs : List Char) : Option Nat :=
  match cs with
  | [] => none
  | '0' :: _ :: _ => none
  | digits => (valueIn 10 digits).filter (· ≤ 255)

/-- The two groups of an IPv6 address that are written as an IPv4 address. -/
def readLastGroups (cs : List Char) : Option (List Nat) := do
  let octets ← (splitBy '.' cs).mapM readOctet
  match octets with
  | [a, b, c, d] => some [a * 256 + b, c * 256 + d]
  | _ => none

/-- Reads the groups of an IPv6 address from a place where a group, or a second colon, is
expected. -/
def readGroups (state : Ipv6State) (cs : List Char) : Option Ipv6State :=
  match cs with
  | [] => some state
  | ':' :: rest =>
    if state.groups.length = 8 ∨ state.gap.isSome then none
    else readGroups ⟨0 :: state.groups, some (state.groups.length + 1)⟩ rest
  | c :: rest =>
    if state.groups.length = 8 then none
    else
      let digits := ((c :: rest).take 4).takeWhile fun c => (digit? 16 c).isSome
      match _h : (c :: rest).drop digits.length with
      | [] => some ⟨(valueIn 16 digits).getD 0 :: state.groups, state.gap⟩
      | '.' :: _ =>
        if digits.isEmpty ∨ 6 < state.groups.length then none
        else (readLastGroups (c :: rest)).map fun last => ⟨last.reverse ++ state.groups, state.gap⟩
      | ':' :: rest' =>
        if rest'.isEmpty then none
        else readGroups ⟨(valueIn 16 digits).getD 0 :: state.groups, state.gap⟩ rest'
      | _ => none
termination_by cs.length
decreasing_by
  · simp
  · have := congrArg List.length _h
    simp only [List.length_drop, List.length_cons] at this ⊢
    omega

/-- The eight groups of an address, with the run of zero groups put in. -/
def fillGap (state : Ipv6State) : Option (List Nat) :=
  let groups := state.groups.reverse
  match state.gap with
  | some before =>
    if 8 < groups.length then none
    else some (groups.take before ++ List.replicate (8 - groups.length) 0 ++ groups.drop before)
  | none => if groups.length = 8 then some groups else none

/-- Reads an IPv6 address. -/
def readIpv6 (cs : List Char) : Except UrlFault (List Nat) :=
  let groups := match cs with
    | ':' :: ':' :: rest => (readGroups ⟨[0], some 1⟩ rest).bind fillGap
    | ':' :: _ => none
    | [] | [_] => none
    | cs => (readGroups ⟨[], none⟩ cs).bind fillGap
  match groups with
  | some groups => .ok groups
  | none => .error .invalidIpv6

/-- The length of the run of zeros that a list begins with. -/
def zeroRun (groups : List Nat) : Nat :=
  (groups.takeWhile (· == 0)).length

/-- The place and the length of the first of the longest runs of zeros. -/
def longestRun (place : Nat) : List Nat → Nat × Nat
  | [] => (place, 0)
  | group :: rest =>
    let run := zeroRun (group :: rest)
    let later := longestRun (place + 1) rest
    if later.2 ≤ run then (place, run) else later

/-- A group in hexadecimal. -/
def groupText (group : Nat) : List Char :=
  Nat.toDigits 16 group

/-- An IPv6 address in its shortest form: the first of the longest runs of at least two zero
groups is left out. -/
def ipv6Text (groups : List Nat) : List Char :=
  let (place, run) := longestRun 0 groups
  if run < 2 then joinBy ':' (groups.map groupText)
  else
    joinBy ':' ((groups.take place).map groupText) ++ ':' :: ':' ::
      joinBy ':' ((groups.drop (place + run)).map groupText)

end OlapClient.Url
