/-!
# Octets and characters

A document, a request and a response are lists of octets.  `encode` gives the octets of a
text.  `decode` reads octets as far as they can be read: a well-formed sequence becomes its
character, and a maximal ill-formed stretch, which never holds an octet of the ASCII range,
becomes one `none`.  `decode?` accepts the octets of a text only, and `decodeLossy` puts
U+FFFD for each ill-formed stretch.
-/

namespace OlapClient.Text

/-- A sequence of octets. -/
abbrev Octets : Type := List UInt8

/-- One step of reading octets: a character, or a stretch that belongs to no character. -/
abbrev Symbol : Type := Option Char

/-- The UTF-8 octets of a text. -/
def encode (cs : List Char) : Octets :=
  cs.flatMap String.utf8EncodeChar

/-- The UTF-8 octets of a string. -/
def octets (s : String) : Octets :=
  encode s.toList

/-- Whether an octet continues a multi-octet sequence. -/
def isTail (b : UInt8) : Bool :=
  0x80 ≤ b && b ≤ 0xBF

/-- The number of continuation octets a lead octet calls for, and the range of the first of
them; `none` for an octet that leads no multi-octet sequence. -/
def leadRange (b : UInt8) : Option (Nat × UInt8 × UInt8) :=
  if 0xC2 ≤ b && b ≤ 0xDF then some (1, 0x80, 0xBF)
  else if b == 0xE0 then some (2, 0xA0, 0xBF)
  else if b == 0xED then some (2, 0x80, 0x9F)
  else if 0xE1 ≤ b && b ≤ 0xEF then some (2, 0x80, 0xBF)
  else if b == 0xF0 then some (3, 0x90, 0xBF)
  else if b == 0xF4 then some (3, 0x80, 0x8F)
  else if 0xF1 ≤ b && b ≤ 0xF3 then some (3, 0x80, 0xBF)
  else none

/-- The number of octets after `b` that belong to one ill-formed stretch with it: those that
begin a sequence led by `b` and left incomplete. -/
def strayTails (b : UInt8) (rest : Octets) : Nat :=
  match leadRange b, rest with
  | some (count, lo, hi), t :: rest =>
    if lo ≤ t && t ≤ hi then 1 + ((rest.take (count - 1)).takeWhile isTail).length else 0
  | _, _ => 0

/-- The character whose UTF-8 form the octets begin with. -/
def leadingChar? (bytes : Octets) : Option Char :=
  (bytes.take 4).toByteArray.utf8DecodeChar? 0

/-- Octets read as characters and ill-formed stretches, in order. -/
def decode : Octets → List Symbol
  | [] => []
  | b :: rest =>
    match leadingChar? (b :: rest) with
    | some c => some c :: decode (rest.drop (c.utf8Size - 1))
    | none => none :: decode (rest.drop (strayTails b rest))
termination_by bytes => bytes.length
decreasing_by all_goals simp only [List.length_drop, List.length_cons]; omega

/-- The characters of a list of symbols that has no ill-formed stretch. -/
def characters? : List Symbol → Option (List Char)
  | [] => some []
  | some c :: rest => (characters? rest).map (c :: ·)
  | none :: _ => none

/-- The text that octets are the UTF-8 form of. -/
def decode? (bytes : Octets) : Option (List Char) :=
  characters? (decode bytes)

/-- The text of octets, with U+FFFD in place of each ill-formed stretch. -/
def decodeLossy (bytes : Octets) : List Char :=
  (decode bytes).map (·.getD '\uFFFD')

@[simp]
theorem encode_nil :
  encode [] = []
  := rfl

@[simp]
theorem encode_append (cs ds : List Char) :
  encode (cs ++ ds) = encode cs ++ encode ds
  := List.flatMap_append

@[simp]
theorem characters?_map_some (cs : List Char) :
  characters? (cs.map some) = some cs
  := by
  induction cs with
  | nil => rfl
  | cons c cs ih => simp [characters?, ih]

end OlapClient.Text
