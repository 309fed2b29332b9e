import Mathlib.Tactic.Common
import OlapClient.Markup.Token
import OlapClient.Proofs.Markup.Name

/-!
# Tags read as they are written

A written tag consists of its name and of its attributes, each after one space, with its value in
double quotes.  When its names are name tokens and no value holds a double quote, `cutTag` finds
the bracket that closes it, and reading what stands before that bracket gives the tag: a start tag,
or an empty tag where a slash stands last.
-/

namespace OlapClient.Markup

open OlapClient.Text

/-! ### The text of a tag -/

/-- An attribute as it stands in a tag. -/
def attributeWritten (item : List Char × List Char) : List Char :=
  ' ' :: item.1 ++ "=\"".toList ++ item.2 ++ ['"']

/-- A tag as it stands between its brackets. -/
def WrittenTag.chars (tag : WrittenTag) : List Char :=
  tag.name ++ tag.attributes.flatMap attributeWritten

/-- The names are name tokens, no two attributes have one name, and no value holds the quote
around it. -/
structure WrittenTag.Regular (tag : WrittenTag) : Prop where
  name : isNameToken tag.name
  keys : ∀ item ∈ tag.attributes, isNameToken item.1
  distinct : (tag.attributes.map (·.1)).Nodup
  values : ∀ item ∈ tag.attributes, '"' ∉ item.2

/-! ### Name characters within a tag -/

theorem isSpace_of_isNameChar {c : Char} (h : isNameChar c) :
  isSpace c = false
  := by
  have space := ne_of_isNameChar h (d := ' ') (by decide)
  have tab := ne_of_isNameChar h (d := '\t') (by decide)
  have carriage := ne_of_isNameChar h (d := '\r') (by decide)
  have line := ne_of_isNameChar h (d := '\n') (by decide)
  simp [isSpace, space, tab, carriage, line]

theorem endsKey_of_isNameChar {c : Char} (h : isNameChar c) :
  endsKey c = false
  := by
  have sign := ne_of_isNameChar h (d := '=') (by decide)
  simp [endsKey, sign, isSpace_of_isNameChar h]

/-- A character that neither closes a tag nor opens a quotation within it. -/
def isUnquoted (c : Char) : Bool :=
  c != '>' && c != '"' && c != '\''

theorem isUnquoted_of_isNameChar {c : Char} (h : isNameChar c) :
  isUnquoted c
  := by
  have bracket := ne_of_isNameChar h (d := '>') (by decide)
  have double := ne_of_isNameChar h (d := '"') (by decide)
  have single := ne_of_isNameChar h (d := '\'') (by decide)
  simp [isUnquoted, bracket, double, single]

/-! ### The bracket that closes a tag -/

/-- Puts symbols in front of what a cut found before its place. -/
def putBefore {α : Type} (front : List α) (found : Option (List α × List α)) :
    Option (List α × List α) :=
  found.map fun (before, after) => (front ++ before, after)

@[simp]
theorem putBefore_some {α : Type} (front before after : List α) :
  putBefore front (some (before, after)) = some (front ++ before, after)
  := rfl

@[simp]
theorem putBefore_nil {α : Type} (found : Option (List α × List α)) :
  putBefore [] found = found
  := by
  cases found <;> rfl

theorem putBefore_append {α : Type} (front back : List α) (found : Option (List α × List α)) :
  putBefore (front ++ back) found = putBefore front (putBefore back found)
  := by
  cases found <;> simp [putBefore]

theorem putBefore_cons {α : Type} (a : α) (front : List α) (found : Option (List α × List α)) :
  putBefore (a :: front) found = (putBefore front found).map fun (b, r) => (a :: b, r)
  := by
  cases found <;> simp [putBefore]

theorem cutTag_unquoted
    {cs : List Char} (h : ∀ c ∈ cs, isUnquoted c) (rest : List Symbol) :
  cutTag none (cs.map some ++ rest) = putBefore (cs.map some) (cutTag none rest)
  := by
  induction cs with
  | nil => simp
  | cons c cs ih =>
    have plain := h c (by simp)
    simp only [isUnquoted, Bool.and_eq_true, bne_iff_ne] at plain
    obtain ⟨⟨bracket, double⟩, single⟩ := plain
    rw [List.map_cons, List.cons_append, cutTag, if_neg (by simp [bracket]),
      quoteAfter, if_neg (by simp [double, single]), putBefore_cons,
      ih fun x hx => h x (by simp [hx])]

/-- A quotation ends at the first double quote after the one that opens it. -/
theorem cutTag_quoted
    {cs : List Char} (h : '"' ∉ cs) (rest : List Symbol) :
  cutTag (some '"') (cs.map some ++ some '"' :: rest)
    = putBefore (cs.map some ++ [some '"']) (cutTag none rest)
  := by
  induction cs with
  | nil =>
    rw [List.map_nil, List.nil_append, cutTag, if_neg (by simp), List.nil_append, putBefore_cons,
      putBefore_nil]
    simp [quoteAfter]
  | cons c cs ih =>
    simp only [List.mem_cons, not_or] at h
    rw [List.map_cons, List.cons_append, cutTag, if_neg (by simp), List.cons_append,
      putBefore_cons, ← ih h.2]
    simp [quoteAfter, Ne.symm h.1]

theorem cutTag_attribute
    {item : List Char × List Char} (key : isNameToken item.1) (value : '"' ∉ item.2)
    (rest : List Symbol) :
  cutTag none ((attributeWritten item).map some ++ rest)
    = putBefore ((attributeWritten item).map some) (cutTag none rest)
  := by
  have front : ∀ c ∈ ' ' :: item.1 ++ ['='], isUnquoted c := by
    intro c hc
    simp only [List.cons_append, List.mem_cons, List.mem_append, List.not_mem_nil,
      or_false] at hc
    rcases hc with rfl | hc | rfl
    · decide
    · apply isUnquoted_of_isNameChar
      apply isNameChar_of_mem key hc
    · decide
  have split : attributeWritten item = (' ' :: item.1 ++ ['=']) ++ '"' :: (item.2 ++ ['"']) := by
    simp [attributeWritten]
  have quoted : cutTag none (('"' :: (item.2 ++ ['"'])).map some ++ rest)
      = putBefore (('"' :: (item.2 ++ ['"'])).map some) (cutTag none rest) := by
    simp only [List.map_cons, List.map_append, List.map_nil, List.cons_append, List.append_assoc,
      List.nil_append]
    rw [cutTag, if_neg (by simp), putBefore_cons, ← cutTag_quoted value]
    rfl
  rw [split, List.map_append, List.append_assoc, cutTag_unquoted front, putBefore_append, quoted]

theorem cutTag_attributes
    {items : List (List Char × List Char)} (keys : ∀ item ∈ items, isNameToken item.1)
    (values : ∀ item ∈ items, '"' ∉ item.2) (rest : List Symbol) :
  cutTag none ((items.flatMap attributeWritten).map some ++ rest)
    = putBefore ((items.flatMap attributeWritten).map some) (cutTag none rest)
  := by
  induction items with
  | nil => simp
  | cons item items ih =>
    rw [List.flatMap_cons, List.map_append, List.append_assoc,
      cutTag_attribute (keys item (by simp)) (values item (by simp)), putBefore_append,
      ih (fun x hx => keys x (by simp [hx])) (fun x hx => values x (by simp [hx]))]

/-- No bracket closes a regular tag before its end. -/
theorem cutTag_chars {tag : WrittenTag} (h : tag.Regular) (rest : List Symbol) :
  cutTag none (tag.chars.map some ++ rest) = putBefore (tag.chars.map some) (cutTag none rest)
  := by
  have name : ∀ c ∈ tag.name, isUnquoted c :=
    fun c hc => isUnquoted_of_isNameChar (isNameChar_of_mem h.name hc)
  rw [WrittenTag.chars, List.map_append, List.append_assoc, cutTag_unquoted name,
    cutTag_attributes h.keys h.values, putBefore_append]

/-! ### Reading what stands between the brackets -/

theorem dropWhile_not_endsKey
    {cs : List Char} (h : ∀ c ∈ cs, isNameChar c) (rest : List Char) :
  (cs ++ '=' :: rest).dropWhile (!endsKey ·) = '=' :: rest
  := by
  rw [List.dropWhile_append_of_pos (fun c hc => by simp [endsKey_of_isNameChar (h c hc)])]
  rfl

theorem takeWhile_not_endsKey
    {cs : List Char} (h : ∀ c ∈ cs, isNameChar c) (rest : List Char) :
  (cs ++ '=' :: rest).takeWhile (!endsKey ·) = cs
  := by
  rw [List.takeWhile_append_of_pos (fun c hc => by simp [endsKey_of_isNameChar (h c hc)])]
  simp [endsKey]

theorem readAttribute_written
    {item : List Char × List Char} (key : isNameToken item.1) (value : '"' ∉ item.2)
    (rest : List Char) :
  readAttribute (item.1 ++ "=\"".toList ++ item.2 ++ ['"'] ++ rest) = some (item, rest)
  := by
  obtain ⟨name, text⟩ := item
  obtain ⟨c, cs, rfl⟩ := List.exists_cons_of_ne_nil (ne_nil_of_isNameToken key)
  have tail : ∀ d ∈ cs, isNameChar d := fun d hd => isNameChar_of_mem key (by simp [hd])
  have found : cut (· == '"') (text ++ '"' :: rest) = some (text, '"', rest) := by
    apply cut_append rest (by simp)
    intro d hd
    simp only [beq_eq_false_iff_ne]
    rintro rfl
    apply value hd
  have equals : c :: cs ++ "=\"".toList ++ text ++ ['"'] ++ rest
      = c :: (cs ++ '=' :: '"' :: (text ++ '"' :: rest)) := by simp
  rw [equals, readAttribute, dropWhile_not_endsKey tail, takeWhile_not_endsKey tail]
  simp [isSpace, found]

theorem readAttributes_written
    {items : List (List Char × List Char)} (keys : ∀ item ∈ items, isNameToken item.1)
    (values : ∀ item ∈ items, '"' ∉ item.2) :
  readAttributes (items.flatMap attributeWritten) = some items
  := by
  induction items with
  | nil =>
    rw [readAttributes]
    rfl
  | cons item items ih =>
    have key := keys item (by simp)
    obtain ⟨c, cs, hc⟩ := List.exists_cons_of_ne_nil (ne_nil_of_isNameToken key)
    have first : isSpace c = false :=
      isSpace_of_isNameChar (isNameChar_of_mem key (by simp [hc]))
    have read := readAttribute_written key (values item (by simp))
      (items.flatMap attributeWritten)
    have start : ((item :: items).flatMap attributeWritten).dropWhile isSpace
        = item.1 ++ "=\"".toList ++ item.2 ++ ['"'] ++ items.flatMap attributeWritten := by
      rw [List.flatMap_cons, attributeWritten, hc]
      simp [first, show isSpace ' ' = true by decide]
    rw [hc] at start read
    simp only [List.cons_append] at start read
    rw [readAttributes]
    split
    · rename_i nothing
      rw [start] at nothing
      cases nothing
    · rename_i d rest something
      rw [start] at something
      cases something
      rw [read]
      simp only [ih (fun x hx => keys x (by simp [hx])) (fun x hx => values x (by simp [hx]))]
      rfl

/-- A regular tag is what is read between its brackets. -/
theorem readTag_chars {tag : WrittenTag} (h : tag.Regular) :
  readTag tag.chars = some tag
  := by
  have name : ∀ c ∈ tag.name, (!isSpace c) = true := by
    intro c hc
    simp [isSpace_of_isNameChar (isNameChar_of_mem h.name hc)]
  have rest : (tag.attributes.flatMap attributeWritten).dropWhile (!isSpace ·)
      = tag.attributes.flatMap attributeWritten := by
    cases tag.attributes <;> simp [attributeWritten, isSpace]
  have before : (tag.attributes.flatMap attributeWritten).takeWhile (!isSpace ·) = [] := by
    cases tag.attributes <;> simp [attributeWritten, isSpace]
  rw [readTag, WrittenTag.chars, List.dropWhile_append_of_pos name,
    List.takeWhile_append_of_pos name, rest, before, readAttributes_written h.keys h.values]
  simp [h.distinct]

/-! ### Tokens of tags -/

theorem getLast?_chars_ne {tag : WrittenTag} (h : tag.Regular) :
  tag.chars.getLast? ≠ some '/'
  := by
  rw [WrittenTag.chars]
  rcases List.eq_nil_or_concat tag.attributes with bare | ⟨front, item, last⟩
  · rw [bare, List.flatMap_nil, List.append_nil]
    intro last
    have named := isNameChar_of_mem h.name (List.mem_of_getLast? last)
    revert named
    decide
  · have quote : (attributeWritten item).getLast? = some '"' := by
      rw [attributeWritten, List.getLast?_concat]
    rw [last, List.concat_eq_append, List.flatMap_append, List.flatMap_singleton,
      List.getLast?_append, List.getLast?_append, quote]
    simp

/-- A regular tag and a mark after it are read as what stands between the brackets. -/
theorem readToken_opening
    {tag : WrittenTag} (h : tag.Regular) {mark : List Char} (plain : ∀ c ∈ mark, isUnquoted c)
    {token : Token} (opening : readOpening ((tag.chars ++ mark).map some) = some token)
    (rest : List Symbol) :
  readToken (some '<' :: ((tag.chars ++ mark).map some ++ some '>' :: rest)) = some (token, rest)
  := by
  obtain ⟨c, cs, hc⟩ := List.exists_cons_of_ne_nil (ne_nil_of_isNameToken h.name)
  have named : isNameChar c := isNameChar_of_mem h.name (by simp [hc])
  have bang := ne_of_isNameChar named (d := '!') (by decide)
  have question := ne_of_isNameChar named (d := '?') (by decide)
  have slash := ne_of_isNameChar named (d := '/') (by decide)
  have closing : cutTag none ((tag.chars ++ mark).map some ++ some '>' :: rest)
      = some ((tag.chars ++ mark).map some, rest) := by
    rw [List.map_append, List.append_assoc, cutTag_chars h, cutTag_unquoted plain, cutTag]
    simp
  have start : tag.chars ++ mark
      = c :: (cs ++ tag.attributes.flatMap attributeWritten ++ mark) := by
    simp [WrittenTag.chars, hc]
  rw [start, List.map_cons, List.cons_append] at closing ⊢
  rw [start, List.map_cons] at opening
  rw [readToken, readMarkup]
  · simp only [closing, opening, Option.bind_eq_bind, Option.bind_some, Option.pure_def]
  · simp
  · simp [bang]
  · simp [question]
  · simp [slash]

/-- A regular tag between its brackets is a start tag. -/
theorem readToken_startTag {tag : WrittenTag} (h : tag.Regular) (rest : List Symbol) :
  readToken (some '<' :: (tag.chars.map some ++ some '>' :: rest)) = some (.startTag tag, rest)
  := by
  have opening : readOpening ((tag.chars ++ []).map some) = some (.startTag tag) := by
    rw [readOpening, characters?_map_some, List.append_nil]
    simp [getLast?_chars_ne h, readTag_chars h]
  have token := readToken_opening h (by simp) opening rest
  rwa [List.append_nil] at token

/-- With a slash before the closing bracket it is an empty tag. -/
theorem readToken_emptyTag {tag : WrittenTag} (h : tag.Regular) (rest : List Symbol) :
  readToken (some '<' :: (tag.chars.map some ++ some '/' :: some '>' :: rest))
    = some (.emptyTag tag, rest)
  := by
  have opening : readOpening ((tag.chars ++ ['/']).map some) = some (.emptyTag tag) := by
    rw [readOpening, characters?_map_some]
    simp [readTag_chars h]
  have token := readToken_opening h (by simp [isUnquoted]) opening rest
  simpa using token

theorem readEndName_of_isNameToken {name : List Char} (h : isNameToken name) :
  readEndName name = name
  := by
  have keep : ∀ c ∈ name, isSpace c = false :=
    fun c hc => isSpace_of_isNameChar (isNameChar_of_mem h hc)
  obtain ⟨front, c, rfl⟩ : ∃ front c, name = front ++ [c] := by
    rcases List.eq_nil_or_concat name with none | some
    · apply absurd none (ne_nil_of_isNameToken h)
    · simpa using some
  have last := keep c (by simp)
  simp [readEndName, last]

/-- A name between the brackets of an end tag is that end tag. -/
theorem readToken_endTag {name : List Char} (h : isNameToken name) (rest : List Symbol) :
  readToken (some '<' :: some '/' :: (name.map some ++ some '>' :: rest))
    = some (.endTag name, rest)
  := by
  have plain : ∀ c ∈ name, isUnquoted c :=
    fun c hc => isUnquoted_of_isNameChar (isNameChar_of_mem h hc)
  rw [readToken, readMarkup, cutTag_unquoted plain, cutTag]
  simp [readEndName_of_isNameToken h]

end OlapClient.Markup
