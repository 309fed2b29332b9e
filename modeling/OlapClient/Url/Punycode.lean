/-!
# Labels of domain names in ASCII

A label with characters beyond ASCII is written as its ASCII characters followed by a sequence
of letters and digits that says which other characters stand where.  Each of these is a
distance, written as a number in radix 36 whose digits have thresholds that adapt to the
distances before.
-/

namespace OlapClient.Url.Punycode

/-- The character of a digit: letters, then decimal digits. -/
def digitCharacter (d : Nat) : Char :=
  if d < 26 then Char.ofNat ('a'.toNat + d) else Char.ofNat ('0'.toNat + (d - 26))

/-- The value of a digit. -/
def digitValue? (c : Char) : Option Nat :=
  if 'a' ≤ c ∧ c ≤ 'z' then some (c.toNat - 'a'.toNat)
  else if 'A' ≤ c ∧ c ≤ 'Z' then some (c.toNat - 'A'.toNat)
  else if '0' ≤ c ∧ c ≤ '9' then some (c.toNat - '0'.toNat + 26)
  else none

/-- The threshold of the digit at the place `k`, counted in steps of 36. -/
def threshold (k bias : Nat) : Nat :=
  max 1 (min 26 (k - bias))

/-- A distance scaled down until it is small, and the bias of the scaling. -/
def scaleDown (delta bias : Nat) : Nat × Nat :=
  if 455 < delta then scaleDown (delta / 35) (bias + 36) else (delta, bias)
termination_by delta
decreasing_by omega

/-- The bias after a distance.  The first distance of all is scaled down the most. -/
def adapt (delta points : Nat) (first : Bool) : Nat :=
  let delta := if first then delta / 700 else delta / 2
  let (delta, bias) := scaleDown (delta + delta / points) 0
  bias + 36 * delta / (delta + 38)

/-- A distance in digits, from the place `k` on. -/
def distanceDigits (bias k q : Nat) : List Char :=
  let t := threshold k bias
  if q < t then [digitCharacter q]
  else
    digitCharacter (t + (q - t) % (36 - t)) :: distanceDigits bias (k + 36) ((q - t) / (36 - t))
termination_by q
decreasing_by
  have low : 1 ≤ threshold k bias := Nat.le_max_left _ _
  have := Nat.div_le_self (q - threshold k bias) (36 - threshold k bias)
  show (q - threshold k bias) / (36 - threshold k bias) < q
  omega

/-- The state of writing a label: what is written, the distance so far, the bias, and the
number of characters that are accounted for. -/
structure Writing where
  written : List Char
  delta : Nat
  bias : Nat
  handled : Nat

/-- The state after one character of the label has been looked at, where the characters of the
code point `point` are being written. -/
def Writing.look (basic point : Nat) (w : Writing) (c : Char) : Writing :=
  if c.toNat < point then { w with delta := w.delta + 1 }
  else if c.toNat = point then
    ⟨w.written ++ distanceDigits w.bias 36 w.delta, 0,
      adapt w.delta (w.handled + 1) (w.handled == basic), w.handled + 1⟩
  else w

/-- Writes the characters of code points in ascending order, the last one written being the one
before `next`. -/
def Writing.run (label : List Char) (basic next : Nat) (w : Writing) : List Nat → Writing
  | [] => w
  | point :: points =>
    let w := { w with delta := w.delta + (point - next) * (w.handled + 1) }
    let w := label.foldl (look basic point) w
    Writing.run label basic (point + 1) { w with delta := w.delta + 1 } points

/-- A label in ASCII, without the mark that says so. -/
def encode (label : List Char) : List Char :=
  let ascii := label.filter (·.toNat < 0x80)
  let points := ((label.filter (0x80 ≤ ·.toNat)).map Char.toNat).mergeSort.eraseDups
  let start := if ascii.isEmpty then [] else ascii ++ ['-']
  (Writing.run label ascii.length 0x80 ⟨start, 0, 72, ascii.length⟩ points).written

/-- Reads a distance from the place `k` on: its value added to `i`, and the rest. -/
def readDistance (bias k weight i : Nat) : List Char → Option (Nat × List Char)
  | [] => none
  | c :: rest => do
    let d ← digitValue? c
    let t := threshold k bias
    let i := i + d * weight
    if d < t then some (i, rest) else readDistance bias (k + 36) (weight * (36 - t)) i rest

theorem length_readDistance
    {bias k weight i j : Nat} {cs rest : List Char}
    (h : readDistance bias k weight i cs = some (j, rest)) :
  rest.length < cs.length
  := by
  induction cs generalizing k weight i with
  | nil => simp [readDistance] at h
  | cons c cs ih =>
    simp only [readDistance, Option.bind_eq_bind, Option.bind_eq_some_iff] at h
    obtain ⟨d, -, h⟩ := h
    split at h
    · simp only [Option.some.injEq, Prod.mk.injEq] at h
      simp [← h.2]
    · have := ih h
      simp only [List.length_cons]
      omega

/-- Reads the distances of a label and puts the characters they describe in place. -/
def readPoints (label : List Char) (point i bias : Nat) (cs : List Char) : Option (List Char) :=
  match cs with
  | [] => some label
  | c :: rest =>
    match _h : readDistance bias 36 1 i (c :: rest) with
    | none => none
    | some (j, rest') =>
      let length := label.length + 1
      let bias := adapt (j - i) length (i == 0)
      let point := point + j / length
      let i := j % length
      if point.isValidChar then
        readPoints (label.take i ++ Char.ofNat point :: label.drop i) point (i + 1) bias rest'
      else none
termination_by cs.length
decreasing_by exact length_readDistance _h

/-- A label from its ASCII form, without the mark that says so. -/
def decode (cs : List Char) : Option (List Char) :=
  if '-' ∈ cs then
    let reversed := cs.reverse
    let ascii := (reversed.dropWhile (· ≠ '-')).drop 1
    readPoints ascii.reverse 0x80 0 72 (reversed.takeWhile (· ≠ '-')).reverse
  else readPoints [] 0x80 0 72 cs

end OlapClient.Url.Punycode
