import Mathlib.Tactic.Common
import OlapClient.Proofs.Markup.Plain

/-!
# References in texts and in attribute values

A text and an attribute value have their references resolved by rules of their own.  Both are parted
at the same places, and `Decodes` says what becomes of one under a rule.  `references_agree`
compares the two on whole documents: what an attribute value may be a text may be too, and it stands
for the same characters.  Beyond that a text has a capital mark for hexadecimal digits, which is
read as the small one.
-/

namespace OlapClient.Markup

open OlapClient.Number
open OlapClient.Text

/-! ### Resolving references -/

/-- The name of a reference has no character at which it would end. -/
def IsPlainName (name : List Char) : Prop :=
  ∀ c ∈ name, endsReference c = false

/-- What a text becomes when each reference in it stands for a character by a rule. -/
inductive Decodes (resolve : List Char → Option Char) : List Char → List Char → Prop where
  | nil : Decodes resolve [] []
  | char {c : Char} {cs ds : List Char} (plain : c ≠ '&') (rest : Decodes resolve cs ds) :
      Decodes resolve (c :: cs) (c :: ds)
  | reference {name cs ds : List Char} {d : Char} (plain : IsPlainName name)
      (stands : resolve name = some d) (rest : Decodes resolve cs ds) :
      Decodes resolve ('&' :: (name ++ ';' :: cs)) (d :: ds)

/-- What follows an ampersand is no name of a reference: it has no end. -/
def IsLoose (cs : List Char) : Prop :=
  ∀ name rest, cut endsReference cs ≠ some (name, ';', rest)

theorem cut_reference {name : List Char} (plain : IsPlainName name) (cs : List Char) :
  cut endsReference (name ++ ';' :: cs) = some (name, ';', cs)
  := cut_append cs (by decide) plain

section

variable {resolve : List Char → Option Char} {cs ds : List Char}

theorem decodes_nil_iff :
  Decodes resolve [] ds ↔ ds = []
  := by
  constructor
  · intro h
    cases h
    rfl
  · rintro rfl
    apply Decodes.nil

theorem decodes_char_iff {c : Char} (plain : c ≠ '&') :
  Decodes resolve (c :: cs) ds ↔ ∃ ds', ds = c :: ds' ∧ Decodes resolve cs ds'
  := by
  constructor
  · intro h
    cases h with
    | char _ rest => exact ⟨_, rfl, rest⟩
    | reference => contradiction
  · rintro ⟨ds', rfl, rest⟩
    apply Decodes.char plain rest

theorem decodes_reference_iff {name : List Char} (plain : IsPlainName name) :
  Decodes resolve ('&' :: (name ++ ';' :: cs)) ds
    ↔ ∃ d ds', ds = d :: ds' ∧ resolve name = some d ∧ Decodes resolve cs ds'
  := by
  constructor
  · intro h
    generalize whole : '&' :: (name ++ ';' :: cs) = text at h
    cases h with
    | nil => cases whole
    | char other => exact absurd (List.head_eq_of_cons_eq whole).symm other
    | reference plain' stands rest =>
      have same := cut_reference plain cs
      rw [List.tail_eq_of_cons_eq whole, cut_reference plain'] at same
      cases same
      exact ⟨_, _, rfl, stands, rest⟩
  · rintro ⟨d, ds', rfl, stands, rest⟩
    apply Decodes.reference plain stands rest

theorem not_decodes_of_isLoose (loose : IsLoose cs) :
  ¬ Decodes resolve ('&' :: cs) ds
  := by
  intro h
  generalize whole : '&' :: cs = text at h
  cases h with
  | nil => cases whole
  | char other => exact absurd (List.head_eq_of_cons_eq whole).symm other
  | reference plain =>
    apply loose
    rw [List.tail_eq_of_cons_eq whole, cut_reference plain]

end

/-- An attribute value is read by its own rule. -/
theorem unescape_eq_some_iff {cs ds : List Char} :
  unescape cs = some ds ↔ Decodes attributeCharacter? cs ds
  := by
  fun_induction unescape cs generalizing ds with
  | case1 => simp [decodes_nil_iff, eq_comm]
  | case2 rest name after found ih =>
    obtain ⟨rfl, -, plain⟩ := cut_eq_some found
    rw [decodes_reference_iff plain]
    cases stands : attributeCharacter? name with
    | none => simp
    | some d =>
      simp only [Option.bind_eq_bind, Option.bind_some, Option.pure_def, Option.bind_eq_some_iff,
        Option.some.injEq, ← ih]
      grind
  | case3 rest loose =>
    simp only [reduceCtorEq, false_iff]
    apply not_decodes_of_isLoose
    intro name after found
    exact loose name after found
  | case4 c rest plain ih =>
    rw [decodes_char_iff plain, Option.map_eq_some_iff]
    grind

/-! ### The two rules -/

/-- The character of a reference in a text, if it stands for one. -/
def textCharacter? (name : List Char) : Option Char :=
  (characterOf name).toOption

/-- A text has a reference with a name. -/
def HasReference (cs name : List Char) : Prop :=
  IsPlainName name ∧ ∃ before after, cs = before ++ '&' :: (name ++ ';' :: after)

/-- A reference by number whose number has a sign or is zero. -/
def IsSignedOrZero (name : List Char) : Prop :=
  ∃ mark digits, name = '#' :: (mark ++ digits) ∧ mark ∈ [[], ['x'], ['X']]
    ∧ (digits.head? = some '+' ∨ digits ≠ [] ∧ ∀ d ∈ digits, d = '0')

/-- The mark of hexadecimal digits in a reference, with a capital letter. -/
def capitalMark : List Char := ['&', '#', 'X']

/-- A text with small letters for the marks of hexadecimal digits. -/
def smallMarks : List Char → List Char
  | '&' :: '#' :: 'X' :: cs => '&' :: '#' :: 'x' :: smallMarks cs
  | c :: cs => c :: smallMarks cs
  | [] => []

/-- The name of a reference with a small letter for the mark of hexadecimal digits. -/
def smallMark : List Char → List Char
  | '#' :: 'X' :: digits => '#' :: 'x' :: digits
  | name => name

theorem digit?_eq_some_zero_iff {radix : Nat} (positive : 0 < radix) {c : Char} :
  digit? radix c = some 0 ↔ c = '0'
  := by
  have between {a b : Char} : a ≤ b ↔ a.toNat ≤ b.toNat := Iff.rfl
  rw [digit?]
  constructor
  · intro h
    apply Char.toNat_inj.mp
    simp only [between] at h
    grind
  · rintro rfl
    simp [between, positive]

/-- Digits make zero only if all of them are zeros. -/
theorem zeros_of_readDigits
    {radix : Nat} (positive : 0 < radix) {k : IntKind} {acc n : Bounded k} {digits : List Char}
    (low : 0 ≤ acc.val) (read : readDigits radix k false acc digits = .ok n) (zero : n.val = 0) :
  acc.val = 0 ∧ ∀ d ∈ digits, d = '0'
  := by
  induction digits generalizing acc with
  | nil =>
    rw [readDigits] at read
    cases read
    simp [zero]
  | cons c digits ih =>
    rw [readDigits] at read
    cases digit : digit? radix c with
    | none =>
      rw [digit] at read
      cases read
    | some d =>
      simp only [digit, Bool.false_eq_true, if_false] at read
      cases admitted : Bounded.ofInt? k (acc.val * radix + d) with
      | none =>
        rw [admitted] at read
        cases read
      | some next =>
        rw [admitted] at read
        have value := Bounded.ofInt?_eq_some_iff.mp admitted
        have scaled : 0 ≤ acc.val * radix := Int.mul_nonneg low (by omega)
        obtain ⟨next_zero, zeros⟩ := ih (by omega) read
        have d_zero : d = 0 := by omega
        have acc_zero : acc.val = 0 := by
          have product : acc.val * radix = 0 := by omega
          rcases Int.mul_eq_zero.mp product with zero | zero <;> omega
        rw [d_zero, digit?_eq_some_zero_iff positive] at digit
        exact ⟨acc_zero, List.forall_mem_cons.mpr ⟨digit, zeros⟩⟩

/-- A numeral without a sign is zero only if it consists of zeros. -/
theorem zeros_of_readBounded
    {radix : Nat} (positive : 0 < radix) {digits : List Char} {n : Bounded .nat32}
    (unsigned : digits.head? ≠ some '+') (read : readBounded radix .nat32 digits = .ok n)
    (zero : n.val = 0) :
  digits ≠ [] ∧ ∀ d ∈ digits, d = '0'
  := by
  unfold readBounded at read
  split at read
  · cases read
  · cases read
  · cases read
  · simp at unsigned
  · simp [IntKind.nat32] at read
  · rename_i some_digit _ _ _ _
    exact ⟨some_digit, (zeros_of_readDigits positive (Int.le_refl 0) read zero).2⟩

/-- The character whose code point some digits write. -/
def ofDigits? (radix : Nat) (digits : List Char) : Option Char :=
  (readBounded radix .nat32 digits).toOption.bind fun n => character? n.val.toNat

theorem textCharacter?_number (code : List Char) :
  textCharacter? ('#' :: code)
    = ofDigits? (splitRadix ['x', 'X'] code).1 (splitRadix ['x', 'X'] code).2
  := by
  simp only [textCharacter?, characterOf, ofDigits?]
  cases numeral : readBounded (splitRadix ['x', 'X'] code).1 .nat32
      (splitRadix ['x', 'X'] code).2 with
  | error _ => simp [Except.toOption]
  | ok n => cases point : character? n.val.toNat <;> simp [Except.toOption, point]

/-- An attribute value has the characters of a text that are neither signed nor zero. -/
theorem attributeCharacter?_number {code : List Char} {c : Char} :
  attributeCharacter? ('#' :: code) = some c
    ↔ ofDigits? (splitRadix ['x'] code).1 (splitRadix ['x'] code).2 = some c
      ∧ (splitRadix ['x'] code).2.head? ≠ some '+'
      ∧ ¬ ∃ n, readBounded (splitRadix ['x'] code).1 .nat32 (splitRadix ['x'] code).2 = .ok n
        ∧ n.val = 0
  := by
  simp only [attributeCharacter?, ofDigits?]
  cases readBounded (splitRadix ['x'] code).1 .nat32 (splitRadix ['x'] code).2 with
  | error _ => simp [Except.toOption]
  | ok n => grind [Except.toOption]

theorem characterOf_of_ne_number {name : List Char} (other : ∀ code, name ≠ '#' :: code) :
  textCharacter? name = namedCharacter? name ∧ attributeCharacter? name = namedCharacter? name
  := by
  constructor
  · rw [textCharacter?, characterOf]
    · cases namedCharacter? name <;> rfl
    · exact other
  · rw [attributeCharacter?]
    exact other

theorem splitRadix_of_ne {code : List Char} (other : ∀ digits, code ≠ 'X' :: digits) :
  splitRadix ['x', 'X'] code = splitRadix ['x'] code
  := by
  cases code with
  | nil => rfl
  | cons c digits =>
    have small : c ≠ 'X' := by
      rintro rfl
      exact other digits rfl
    simp [splitRadix, small]

/-- An attribute value has no reference with a capital mark. -/
theorem attributeCharacter?_capital (digits : List Char) :
  attributeCharacter? ('#' :: 'X' :: digits) = none
  := by
  have refused : readBounded 10 .nat32 ('X' :: digits) = .error .invalidDigit := by
    simp [readBounded, readDigits, digit?]
  simp [attributeCharacter?, splitRadix, refused]

/-- What stands for a character in an attribute value stands for the same one in a text. -/
theorem textCharacter?_of_attributeCharacter?
    {name : List Char} {c : Char} (stands : attributeCharacter? name = some c) :
  textCharacter? name = some c
  := by
  by_cases number : ∃ code, name = '#' :: code
  · obtain ⟨code, rfl⟩ := number
    have small : ∀ digits, code ≠ 'X' :: digits := by
      rintro digits rfl
      rw [attributeCharacter?_capital] at stands
      cases stands
    rw [textCharacter?_number, splitRadix_of_ne small]
    exact (attributeCharacter?_number.mp stands).1
  · obtain ⟨inText, inAttribute⟩ := characterOf_of_ne_number (not_exists.mp number)
    rw [inText, ← inAttribute, stands]

/-- A reference without a sign that is not zero stands for one character in both, when its mark
is a small letter in an attribute value. -/
theorem attributeCharacter?_smallMark {name : List Char} (usual : ¬ IsSignedOrZero name) :
  attributeCharacter? (smallMark name) = textCharacter? name
  := by
  by_cases number : ∃ code, name = '#' :: code
  · obtain ⟨code, rfl⟩ := number
    obtain ⟨small, marked, split⟩ : ∃ small, smallMark ('#' :: code) = '#' :: small
        ∧ splitRadix ['x'] small = splitRadix ['x', 'X'] code := by
      by_cases capital : ∃ digits, code = 'X' :: digits
      · obtain ⟨digits, rfl⟩ := capital
        use 'x' :: digits
        constructor <;> rfl
      · use code
        rw [splitRadix_of_ne (not_exists.mp capital), smallMark]
        · trivial
        · intro digits h
          cases h
          exact capital ⟨digits, rfl⟩
    obtain ⟨mark, listed, whole⟩ : ∃ mark ∈ [[], ['x'], ['X']],
        code = mark ++ (splitRadix ['x', 'X'] code).2 := by
      cases code with
      | nil => simp [splitRadix]
      | cons c digits =>
        rw [splitRadix]
        split
        · use [c]
          grind
        · use []
          grind
    have positive : 0 < (splitRadix ['x', 'X'] code).1 := by
      cases code with
      | nil => decide
      | cons c digits =>
        rw [splitRadix]
        split <;> simp
    have unsigned : (splitRadix ['x', 'X'] code).2.head? ≠ some '+' := by
      intro sign
      exact usual ⟨mark, _, congrArg _ whole, listed, .inl sign⟩
    apply Option.ext
    intro c
    rw [marked, attributeCharacter?_number, textCharacter?_number, split]
    constructor
    · rintro ⟨stands, -⟩
      exact stands
    · intro stands
      refine ⟨stands, unsigned, ?_⟩
      rintro ⟨n, read, zero⟩
      exact usual ⟨mark, _, congrArg _ whole, listed,
        .inr (zeros_of_readBounded positive unsigned read zero)⟩
  · have same : smallMark name = name := by
      rw [smallMark]
      intro digits h
      exact number ⟨_, h⟩
    obtain ⟨inText, inAttribute⟩ := characterOf_of_ne_number (not_exists.mp number)
    rw [same, inText, inAttribute]

/-! ### Small marks throughout a text -/

theorem smallMarks_append_of_no_reference {ds : List Char} (none : '&' ∉ ds) (cs : List Char) :
  smallMarks (ds ++ cs) = ds ++ smallMarks cs
  := by
  induction ds with
  | nil => rfl
  | cons d ds ih =>
    simp only [List.mem_cons, not_or] at none
    rw [List.cons_append, smallMarks, ih none.2]
    · rfl
    · rintro cs' rfl
      simp at none

/-- The small mark of each reference, up to where its name ends, is the small mark of the text. -/
theorem smallMarks_reference
    {name cs : List Char} (plain : IsPlainName name) (ends : ∀ c ∈ cs.head?, endsReference c) :
  smallMarks ('&' :: (name ++ cs)) = '&' :: (smallMark name ++ smallMarks cs)
  := by
  have inside : '&' ∉ name := by
    intro within
    have ends := plain _ within
    cases ends
  by_cases capital : ∃ digits, name = '#' :: 'X' :: digits
  · obtain ⟨digits, rfl⟩ := capital
    have after : '&' ∉ digits := fun h => inside (by simp [h])
    simp only [List.cons_append, smallMarks, smallMark, smallMarks_append_of_no_reference after]
  · have other : ∀ rest, name ++ cs ≠ '#' :: 'X' :: rest := by
      intro rest whole
      rcases name with _ | ⟨a, _ | ⟨b, digits⟩⟩
      · cases cs with
        | nil => cases whole
        | cons c cs =>
          cases whole
          simp [endsReference] at ends
      · cases cs with
        | nil => cases whole
        | cons c cs =>
          cases whole
          simp [endsReference] at ends
      · cases whole
        exact capital ⟨digits, rfl⟩
    have same : smallMark name = name := by
      rw [smallMark]
      intro digits h
      exact capital ⟨digits, h⟩
    rw [same, ← smallMarks_append_of_no_reference inside, smallMarks]
    intro rest _ h
    exact other rest h

theorem isPlainName_smallMark {name : List Char} (plain : IsPlainName name) :
  IsPlainName (smallMark name)
  := by
  unfold smallMark
  split
  · intro c hc
    have tail := plain c
    simp only [List.mem_cons] at hc tail
    rcases hc with rfl | rfl | hc
    · decide
    · decide
    · exact tail (.inr (.inr hc))
  · exact plain

theorem smallMarks_of_ne {c : Char} (plain : c ≠ '&') (cs : List Char) :
  smallMarks (c :: cs) = c :: smallMarks cs
  := by
  rw [smallMarks]
  rintro _ rfl
  exact absurd rfl plain

/-- What has no end still has none with small marks. -/
theorem exists_isLoose_smallMarks {cs : List Char} (loose : IsLoose cs) :
  ∃ cs', smallMarks ('&' :: cs) = '&' :: cs' ∧ IsLoose cs'
  := by
  cases found : cut endsReference cs with
  | none =>
    have plain : IsPlainName cs := cut_eq_none_iff.mp found
    have nothing : ∀ c ∈ ([] : List Char).head?, endsReference c := by simp
    have whole := smallMarks_reference plain nothing
    rw [List.append_nil] at whole
    refine ⟨_, whole, ?_⟩
    intro name rest cutting
    have nowhere := cut_eq_none_iff.mpr (isPlainName_smallMark plain)
    rw [smallMarks, List.append_nil, nowhere] at cutting
    cases cutting
  | some parts =>
    obtain ⟨name, mark, after⟩ := parts
    obtain ⟨rfl, ends, plain⟩ := cut_eq_some found
    have ampersand : mark = '&' := by
      simp only [endsReference, Bool.or_eq_true, beq_iff_eq] at ends
      rcases ends with rfl | rfl
      · exact absurd found (loose name after)
      · rfl
    subst ampersand
    obtain ⟨after', next⟩ : ∃ after', smallMarks ('&' :: after) = '&' :: after' := by
      unfold smallMarks
      split
      · exact ⟨_, rfl⟩
      · rename_i whole
        cases whole
        exact ⟨_, rfl⟩
      · contradiction
    refine ⟨_, smallMarks_reference plain (by simpa using ends), ?_⟩
    intro name' rest cutting
    rw [next, cut_append _ ends (isPlainName_smallMark plain)] at cutting
    cases cutting

/-- With small marks an attribute value is read as the text is, as long as no reference has a sign
or is zero. -/
theorem decodes_smallMarks_iff
    {cs ds : List Char} (usual : ∀ name, HasReference cs name → ¬ IsSignedOrZero name) :
  Decodes attributeCharacter? (smallMarks cs) ds ↔ Decodes textCharacter? cs ds
  := by
  induction cs using unescape.induct generalizing ds with
  | case1 => simp [smallMarks, decodes_nil_iff]
  | case2 rest name after found ih =>
    obtain ⟨rfl, -, plain⟩ := cut_eq_some found
    have here := usual name ⟨plain, [], after, rfl⟩
    have later : ∀ name, HasReference after name → ¬ IsSignedOrZero name := by
      rintro name' ⟨plain', before, after', rfl⟩
      apply usual name'
      exact ⟨plain', '&' :: (name ++ ';' :: before), after', by simp⟩
    have marked := smallMarks_of_ne (c := ';') (by decide) after
    rw [smallMarks_reference plain (by simp [endsReference]), marked,
      decodes_reference_iff (isPlainName_smallMark plain), decodes_reference_iff plain,
      attributeCharacter?_smallMark here]
    simp only [ih later]
  | case3 rest loose =>
    obtain ⟨rest', whole, loose'⟩ := exists_isLoose_smallMarks fun name after found =>
      loose name after found
    rw [whole]
    constructor
    · intro h
      exact absurd h (not_decodes_of_isLoose loose')
    · intro h
      exact absurd h (not_decodes_of_isLoose fun name after found => loose name after found)
  | case4 c rest plain ih =>
    have later : ∀ name, HasReference rest name → ¬ IsSignedOrZero name := by
      rintro name ⟨plain', before, after, rfl⟩
      apply usual name
      exact ⟨plain', c :: before, after, by simp⟩
    rw [smallMarks_of_ne plain, decodes_char_iff plain, decodes_char_iff plain]
    simp only [ih later]

/-- A text without capital marks is its own form with small ones. -/
theorem smallMarks_of_not_capitalMark {cs : List Char} (small : ¬ capitalMark <:+: cs) :
  smallMarks cs = cs
  := by
  fun_induction smallMarks cs with
  | case1 cs =>
    apply absurd _ small
    exact ⟨[], cs, rfl⟩
  | case2 c cs _ ih =>
    rw [ih fun within => small (List.infix_cons within)]
  | case3 => rfl

theorem capitalMark_infix_of_append
    {ds cs : List Char} (none : '&' ∉ ds) (within : capitalMark <:+: ds ++ cs) :
  capitalMark <:+: cs
  := by
  induction ds with
  | nil => exact within
  | cons d ds ih =>
    simp only [List.mem_cons, not_or] at none
    rw [List.cons_append] at within
    rcases List.infix_cons_iff.mp within with start | later
    · obtain ⟨rest, whole⟩ := start
      exact absurd (List.head_eq_of_cons_eq whole) none.1
    · exact ih none.2 later

/-- An attribute value has no capital mark. -/
theorem not_decodes_of_capitalMark {cs ds : List Char} (capital : capitalMark <:+: cs) :
  ¬ Decodes attributeCharacter? cs ds
  := by
  intro reads
  induction reads with
  | nil => simp [capitalMark] at capital
  | char plain _ ih =>
    apply ih
    rw [← List.singleton_append] at capital
    apply capitalMark_infix_of_append _ capital
    simpa using plain.symm
  | @reference name cs ds d plain stands _ ih =>
    have inside : '&' ∉ name ++ [';'] := by
      intro within
      rcases List.mem_append.mp within with within | within
      · cases plain _ within
      · simp at within
    rcases List.infix_cons_iff.mp capital with start | within
    · obtain ⟨rest, whole⟩ := start
      -- The name itself begins with the mark, which is shorter than what its end could cut off.
      rcases name with _ | ⟨a, _ | ⟨b, digits⟩⟩ <;> cases whole
      rw [attributeCharacter?_capital] at stands
      cases stands
    · apply ih
      apply capitalMark_infix_of_append inside
      simpa using within

/-! ### Texts within documents -/

theorem endsName_eq_false {c : Char} (plain : endsReference c = false) (angle : c ≠ '<') :
  endsName (some c) = false
  := by
  simp_all [endsReference, endsName]

namespace Builder

theorem read_eq_notWellFormed
    (b : Builder) (opened : List OpenElement) {s : Symbol} {rest : List Symbol}
    (fails : readToken (s :: rest) = none) :
  b.read opened (s :: rest) = .error .notWellFormed
  := by
  rw [read, tokens]
  split
  · rfl
  · rename_i found
    rw [fails] at found
    cases found

theorem read_eq_error
    {b : Builder} {opened opened' : List OpenElement} {symbols rest : List Symbol}
    {token : Token} {event : Event} {defect : Defect}
    (token_eq : readToken symbols = some (token, rest))
    (event_eq : readEvent opened token = some (event, opened'))
    (step_eq : b.step event = .error defect) :
  b.read opened symbols = .error defect
  := by
  rw [read, tokens_of_readToken token_eq, readEvents, event_eq]
  simp only [run, step_eq]

theorem endsName_of_mem_plainName
    {name : List Char} (plain : IsPlainName name) (angle : '<' ∉ name) :
  ∀ c ∈ name, endsName (some c) = false
  := by
  intro c hc
  apply endsName_eq_false (plain c hc)
  rintro rfl
  exact angle hc

theorem readToken_reference
    {name : List Char} (plain : IsPlainName name) (angle : '<' ∉ name) (rest : List Symbol) :
  readToken (some '&' :: (name.map some ++ some ';' :: rest)) = some (.reference name, rest)
  := by
  have ends : ∀ s ∈ name.map some, endsName s = false := by
    simpa using endsName_of_mem_plainName plain angle
  rw [readToken, readReference, cut_append rest (by decide) ends]
  simp

theorem readToken_loose
    {cs : List Char} (loose : IsLoose cs) (angle : '<' ∉ cs) (rest : List Symbol) :
  readToken (some '&' :: (cs.map some ++ some '<' :: rest)) = none
  := by
  have names {name : List Char} (plain : IsPlainName name) (inside : ∀ c ∈ name, c ∈ cs) :
      ∀ s ∈ name.map some, endsName s = false := by
    simpa using endsName_of_mem_plainName plain fun h => angle (inside _ h)
  rw [readToken, readReference]
  cases found : cut endsReference cs with
  | none =>
    rw [cut_append _ (by decide) (names (cut_eq_none_iff.mp found) fun _ => id)]
    rfl
  | some parts =>
    obtain ⟨name, mark, after⟩ := parts
    obtain ⟨rfl, ends, plain⟩ := cut_eq_some found
    have ampersand : mark = '&' := by
      simp only [endsReference, Bool.or_eq_true, beq_iff_eq] at ends
      rcases ends with rfl | rfl
      · exact absurd found (loose name after)
      · rfl
    rw [ampersand, List.map_append, List.map_cons, List.append_assoc, List.cons_append,
      cut_append _ (by decide) (names plain fun c hc => by simp [hc])]
    rfl

/-- A text adds the characters that it is read as. -/
theorem read_decoded
    {cs ds : List Char} (reads : Decodes textCharacter? cs ds) (angle : '<' ∉ cs) (b : Builder)
    (opened : List OpenElement) (rest : List Symbol) :
  b.read opened (cs.map some ++ rest) = (b.addChars ds).read opened rest
  := by
  induction reads generalizing b with
  | nil => rfl
  | @char c cs ds plain _ ih =>
    simp only [List.mem_cons, not_or] at angle
    have goes : endsText (some c) = false := by simp [endsText, plain, Ne.symm angle.1]
    rw [List.map_cons, List.cons_append, read_char b opened goes, ih angle.2, addChars_cons]
  | @reference name cs ds d plain stands _ ih =>
    simp only [List.mem_cons, List.mem_append, not_or] at angle
    have resolves : characterOf name = .ok d := by
      rw [textCharacter?] at stands
      cases found : characterOf name <;> simp_all [Except.toOption]
    rw [addChars_cons, ← ih angle.2.2.2,
      ← read_reference b opened (endsName_of_mem_plainName plain angle.2.1) resolves]
    simp

/-- A text that is not read as any characters is a defect. -/
theorem read_undecoded
    {cs : List Char} (fails : ∀ ds, ¬ Decodes textCharacter? cs ds) (angle : '<' ∉ cs)
    (b : Builder) (opened : List OpenElement) (rest : List Symbol) :
  ∃ defect, b.read opened (cs.map some ++ some '<' :: rest) = .error defect
  := by
  induction cs using unescape.induct generalizing b with
  | case1 => exact absurd .nil (fails [])
  | case2 after name later found ih =>
    obtain ⟨rfl, -, plain⟩ := cut_eq_some found
    simp only [List.mem_cons, List.mem_append, not_or] at angle
    have whole : ('&' :: (name ++ ';' :: later)).map some ++ some '<' :: rest
        = some '&' :: (name.map some ++ some ';' :: (later.map some ++ some '<' :: rest)) := by
      simp
    rw [whole]
    cases resolves : characterOf name with
    | error fault =>
      use referenceDefect name fault
      apply read_eq_error (readToken_reference plain angle.2.1 _) rfl
      simp [Builder.step, resolves]
    | ok c =>
      rw [read_reference b opened (endsName_of_mem_plainName plain angle.2.1) resolves]
      apply ih _ angle.2.2.2
      intro ds reads
      apply fails (c :: ds)
      apply Decodes.reference plain _ reads
      simp [textCharacter?, resolves, Except.toOption]
  | case3 after loose =>
    simp only [List.mem_cons, not_or] at angle
    refine ⟨_, read_eq_notWellFormed b opened (readToken_loose ?_ angle.2 rest)⟩
    intro name later found
    exact loose name later found
  | case4 c after plain ih =>
    simp only [List.mem_cons, not_or] at angle
    have goes : endsText (some c) = false := by simp [endsText, plain, Ne.symm angle.1]
    rw [List.map_cons, List.cons_append, read_char b opened goes]
    apply ih _ angle.2
    intro ds reads
    exact fails _ (.char plain reads)

end Builder

/-- What is left undone at the end of a document is the defect of the document. -/
theorem readDocument_of_read_error
    {cs : List Char} {defect : Defect} (start : dropMark (cs.map some) = cs.map some)
    (fails : Builder.initial.read [] (cs.map some) = .error defect) :
  readDocument (encode cs) = .error (.malformed defect)
  := by
  have built : buildTree (documentEvents (encode cs)) = .error defect := by
    rw [documentEvents, decode_encode, start]
    rw [Builder.read] at fails
    rw [buildTree, fails]
    rfl
  rw [readDocument, built]
  rfl

/-- A document whose root element holds a text. -/
def textDocument (s : String) : Octets :=
  octets ("<a>" ++ s ++ "</a>")

/-- A document whose root element has an attribute value. -/
def attributeDocument (s : String) : Octets :=
  octets ("<a b=\"" ++ s ++ "\"/>")

variable {s : String}

/-- The tag of a root element without attributes. -/
def plainTag : Tag :=
  ⟨"a", none, "a", []⟩

theorem read_textDocument (cs : List Char) :
  Builder.initial.read [] (("<a>".toList ++ cs ++ "</a>".toList).map some)
    = (⟨[⟨plainTag, []⟩], none⟩ : Builder).read [⟨['a'], .initial⟩]
      (cs.map some ++ some '<' :: some '/' :: (['a'].map some ++ [some '>']))
  := by
  have regular : (⟨['a'], []⟩ : WrittenTag).Regular := by
    constructor
    · decide
    · simp
    · simp
    · simp
  have resolves : resolveTag (scopeWithin []) ⟨['a'], []⟩ = some (plainTag, .initial) := rfl
  have start := Builder.read_startTag .initial [] regular resolves
    (cs.map some ++ some '<' :: some '/' :: (['a'].map some ++ [some '>']))
  rw [Builder.initial] at start
  rw [Builder.initial, ← start]
  simp [WrittenTag.chars]

theorem readDocument_textDocument
    {ds : List Char} (reads : Decodes textCharacter? s.toList ds) (angle : '<' ∉ s.toList) :
  ∃ e, readDocument (textDocument s) = .ok e ∧ e.text = String.ofList ds
  := by
  obtain ⟨nodes, added, text⟩ : ∃ nodes,
      (⟨[⟨plainTag, []⟩], none⟩ : Builder).addChars ds = ⟨[⟨plainTag, nodes⟩], none⟩
        ∧ (Builder.finish ⟨plainTag, nodes⟩).text = String.ofList ds := by
    by_cases empty : ds = []
    · use []
      rw [empty]
      constructor <;> rfl
    · use [.text (String.ofList ds)]
      rw [Builder.addChars_eq_addText _ empty]
      constructor
      · rfl
      · simp [Builder.finish, Element.text, Content.allText, Content.texts, Content.ofNodes]
  use Builder.finish ⟨plainTag, nodes⟩
  constructor
  · rw [textDocument, octets, String.toList_append, String.toList_append]
    apply Builder.readDocument_of_read rfl
    rw [read_textDocument, Builder.read_decoded reads angle, added,
      ← Builder.read_nil ⟨[], some (Builder.finish ⟨plainTag, nodes⟩)⟩ []]
    exact Builder.read_endTag (b := .initial) ⟨plainTag, nodes⟩ [] (by decide) .initial rfl []
  · exact text

theorem readDocument_textDocument_error
    (fails : ∀ ds, ¬ Decodes textCharacter? s.toList ds) (angle : '<' ∉ s.toList) :
  ∃ failure, readDocument (textDocument s) = .error failure
  := by
  obtain ⟨defect, error⟩ := Builder.read_undecoded fails angle ⟨[⟨plainTag, []⟩], none⟩
    [⟨['a'], .initial⟩] (some '/' :: (['a'].map some ++ [some '>']))
  rw [← read_textDocument] at error
  use .malformed defect
  rw [textDocument, octets, String.toList_append, String.toList_append]
  exact readDocument_of_read_error rfl error

/-- The tag of a root element with an attribute value. -/
def valueTag (cs : List Char) : WrittenTag :=
  ⟨['a'], [(['b'], cs)]⟩

theorem regular_valueTag {cs : List Char} (quote : '"' ∉ cs) :
  (valueTag cs).Regular
  := by
  constructor
  · exact (by decide : isNameToken ['a'] = true)
  · simpa [valueTag] using (by decide : isNameToken ['b'] = true)
  · simp [valueTag]
  · simpa [valueTag] using quote

theorem attributeDocument_eq (s : String) :
  attributeDocument s = encode ('<' :: ((valueTag s.toList).chars ++ ['/', '>']))
  := by
  simp [attributeDocument, octets, valueTag, WrittenTag.chars, attributeWritten]

theorem resolveTag_valueTag (cs : List Char) :
  resolveTag .initial (valueTag cs) = (unescape cs).map fun ds =>
    (⟨"a", none, "a", [⟨"b", none, "b", String.ofList ds⟩]⟩, .initial)
  := by
  have declares : Scope.initial.declare (valueTag cs).attributes = some .initial := rfl
  rw [resolveTag, declares]
  simp only [valueTag, Option.bind_eq_bind, Option.bind_some, List.mapM_cons, List.mapM_nil,
    resolveAttribute]
  cases unescape cs <;> rfl

theorem readDocument_attributeDocument
    {ds : List Char} (reads : Decodes attributeCharacter? s.toList ds) (quote : '"' ∉ s.toList) :
  ∃ e, readDocument (attributeDocument s) = .ok e ∧ e.valueOf? "b" = some (String.ofList ds)
  := by
  have resolves := resolveTag_valueTag s.toList
  rw [unescape_eq_some_iff.mpr reads, Option.map_some] at resolves
  use ⟨⟨"a", none, "a", [⟨"b", none, "b", String.ofList ds⟩]⟩, .nil⟩
  constructor
  · rw [attributeDocument_eq]
    apply Builder.readDocument_of_read rfl
    rw [← Builder.read_nil ⟨[], some _⟩ [],
      ← Builder.read_emptyTag [] (regular_valueTag quote) resolves (b := .initial) rfl []]
    simp
  · simp [Element.valueOf?, Tag.valueOf?]

theorem readDocument_attributeDocument_error
    (fails : ∀ ds, ¬ Decodes attributeCharacter? s.toList ds) (quote : '"' ∉ s.toList) :
  ∃ failure, readDocument (attributeDocument s) = .error failure
  := by
  have unread : unescape s.toList = none := by
    rw [Option.eq_none_iff_forall_not_mem]
    intro ds h
    exact fails ds (unescape_eq_some_iff.mp h)
  have resolves := resolveTag_valueTag s.toList
  rw [unread, Option.map_none] at resolves
  have event : readEvent [] (.emptyTag (valueTag s.toList)) = none := by
    simp [readEvent, scopeWithin, resolves]
  use .malformed .notWellFormed
  rw [attributeDocument_eq]
  apply readDocument_of_read_error rfl
  have token := Builder.tokens_of_readToken (readToken_emptyTag (regular_valueTag quote) [])
  have whole : ('<' :: ((valueTag s.toList).chars ++ ['/', '>'])).map some
      = some '<' :: ((valueTag s.toList).chars.map some ++ [some '/', some '>']) := by
    simp
  rw [whole, Builder.read, token, readEvents, event]
  rfl

/-! ### The two compared -/

/-- A text and an attribute value are read alike: both fail, or they have the same characters. -/
def Alike (text value : String) : Prop :=
  (∃ f f', readDocument (textDocument text) = .error f
      ∧ readDocument (attributeDocument value) = .error f')
    ∨ ∃ e e', readDocument (textDocument text) = .ok e
      ∧ readDocument (attributeDocument value) = .ok e' ∧ e'.valueOf? "b" = some e.text

theorem alike_of_decodes
    {t : String} (angle : '<' ∉ s.toList) (quote : '"' ∉ t.toList)
    (same : ∀ ds, Decodes attributeCharacter? t.toList ds ↔ Decodes textCharacter? s.toList ds) :
  Alike s t
  := by
  by_cases reads : ∃ ds, Decodes textCharacter? s.toList ds
  · obtain ⟨ds, reads⟩ := reads
    obtain ⟨e, text_ok, text⟩ := readDocument_textDocument reads angle
    obtain ⟨e', value_ok, value⟩ := readDocument_attributeDocument ((same ds).mpr reads) quote
    right
    exact ⟨e, e', text_ok, value_ok, by rw [value, text]⟩
  · have fails := not_exists.mp reads
    obtain ⟨f, text_error⟩ := readDocument_textDocument_error fails angle
    obtain ⟨f', value_error⟩ := readDocument_attributeDocument_error
      (fun ds h => fails ds ((same ds).mp h)) quote
    left
    exact ⟨f, f', text_error, value_error⟩

/-- What an attribute value is read as, the text is read as too. -/
theorem Decodes.ofAttribute {cs ds : List Char} (reads : Decodes attributeCharacter? cs ds) :
  Decodes textCharacter? cs ds
  := by
  induction reads with
  | nil => apply Decodes.nil
  | char plain _ ih => apply Decodes.char plain ih
  | reference plain stands _ ih =>
    apply Decodes.reference plain (textCharacter?_of_attributeCharacter? stands) ih

theorem not_mem_smallMarks {c : Char} {cs : List Char} (absent : c ∉ cs) (other : c ≠ 'x') :
  c ∉ smallMarks cs
  := by
  fun_induction smallMarks cs <;> simp_all

/-- What an attribute value may be, a text may be too, and it has the same characters.  When no
reference by number has a sign or is zero, a text is read as the attribute value with small marks,
which is the same one where no mark is a capital.  A capital mark is for texts alone. -/
theorem references_agree (angle : '<' ∉ s.toList) (quote : '"' ∉ s.toList) :
  (∀ e', readDocument (attributeDocument s) = .ok e' →
    ∃ e, readDocument (textDocument s) = .ok e ∧ e'.valueOf? "b" = some e.text)
  ∧ ((∀ name, HasReference s.toList name → ¬ IsSignedOrZero name) →
    Alike s (String.ofList (smallMarks s.toList))
    ∧ (¬ capitalMark <:+: s.toList → Alike s s))
  ∧ (capitalMark <:+: s.toList → ∃ f, readDocument (attributeDocument s) = .error f)
  := by
  refine ⟨?_, ?_, ?_⟩
  · intro e' value_ok
    obtain ⟨ds, reads⟩ : ∃ ds, Decodes attributeCharacter? s.toList ds := by
      by_contra fails
      obtain ⟨f, error⟩ := readDocument_attributeDocument_error (not_exists.mp fails) quote
      rw [value_ok] at error
      cases error
    obtain ⟨e, text_ok, text⟩ := readDocument_textDocument reads.ofAttribute angle
    obtain ⟨e'', value_ok', value⟩ := readDocument_attributeDocument reads quote
    rw [value_ok] at value_ok'
    cases value_ok'
    exact ⟨e, text_ok, by rw [value, text]⟩
  · intro usual
    have alike : Alike s (String.ofList (smallMarks s.toList)) := by
      apply alike_of_decodes angle
      · rw [String.toList_ofList]
        apply not_mem_smallMarks quote (by decide)
      · intro ds
        rw [String.toList_ofList]
        apply decodes_smallMarks_iff usual
    constructor
    · exact alike
    · intro small
      rwa [smallMarks_of_not_capitalMark small, String.ofList_toList] at alike
  · intro capital
    apply readDocument_attributeDocument_error _ quote
    intro ds
    apply not_decodes_of_capitalMark capital

/-- A capital mark in a text of its own. -/
theorem references_agree_capital :
  Alike "&#X41;" "&#x41;" ∧ ∃ f, readDocument (attributeDocument "&#X41;") = .error f
  := by
  have usual : ∀ name, HasReference "&#X41;".toList name → ¬ IsSignedOrZero name := by
    have chars : "&#X41;".toList = ['&', '#', 'X', '4', '1', ';'] := by decide
    rw [chars]
    rintro name ⟨plain, _ | ⟨b, before⟩, after, whole⟩
    · have named := cut_reference plain after
      have found : cut endsReference ['#', 'X', '4', '1', ';'] = some (['#', 'X', '4', '1'], ';', []) := by
        decide
      rw [← List.tail_eq_of_cons_eq whole, found] at named
      cases named
      rintro ⟨mark, digits, number, listed, unusual⟩
      simp only [List.mem_cons, List.not_mem_nil, or_false] at listed
      rcases listed with rfl | rfl | rfl <;> cases number <;> simp at unusual
    · have later : '&' ∈ ['#', 'X', '4', '1', ';'] := by
        rw [List.tail_eq_of_cons_eq whole]
        simp
      simp at later
  obtain ⟨-, alike, refused⟩ := references_agree (s := "&#X41;") (by decide) (by decide)
  have capital : capitalMark <:+: "&#X41;".toList := by decide
  exact ⟨(alike usual).1, refused capital⟩

/-- A text with a capital mark is not read as the attribute value that is written alike. -/
theorem not_alike_capital :
  '<' ∉ "&#X41;".toList ∧ '"' ∉ "&#X41;".toList ∧ ¬ Alike "&#X41;" "&#X41;"
  := by
  have angle : '<' ∉ "&#X41;".toList := by decide
  have quote : '"' ∉ "&#X41;".toList := by decide
  refine ⟨angle, quote, ?_⟩
  have reads : Decodes textCharacter? "&#X41;".toList "A".toList := by
    have plain : IsPlainName "#X41".toList := by
      have all : "#X41".toList.all fun c => !endsReference c := by decide
      intro c hc
      simpa using List.all_eq_true.mp all c hc
    have stands : textCharacter? "#X41".toList = some 'A' := by decide
    exact .reference plain stands .nil
  rintro (⟨f, f', text_error, -⟩ | ⟨e, e', -, value_ok, -⟩)
  · obtain ⟨e, text_ok, -⟩ := readDocument_textDocument reads angle
    rw [text_error] at text_ok
    cases text_ok
  · have fails (ds : List Char) : ¬ Decodes attributeCharacter? "&#X41;".toList ds :=
      not_decodes_of_capitalMark (by decide)
    obtain ⟨f, value_error⟩ := readDocument_attributeDocument_error fails quote
    rw [value_ok] at value_error
    cases value_error

end OlapClient.Markup
