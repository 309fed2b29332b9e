import OlapClient.Text.Cut
import OlapClient.Text.Utf8

/-!
# Tokens of a document

A document is a sequence of tokens: tags, texts, character data sections, references, and
stretches that carry no content (comments, processing instructions and document type
declarations).  `tokens` reads them off in order.  The sequence ends with the document, or
with `none` at the first place that is no token.
-/

namespace OlapClient.Markup

open OlapClient.Text

/-- The characters that separate the parts of a tag. -/
def isSpace (c : Char) : Bool :=
  c == ' ' || c == '\t' || c == '\r' || c == '\n'

/-- A tag as written: its name, and its attributes with references unresolved. -/
structure WrittenTag where
  name : List Char
  attributes : List (List Char × List Char)
  deriving DecidableEq, Repr

/-- A token of a document. -/
inductive Token where
  | startTag (tag : WrittenTag)
  | emptyTag (tag : WrittenTag)
  | endTag (name : List Char)
  | text (cs : List Char)
  | characterData (cs : List Char)
  | reference (name : List Char)
  | skipped
  deriving DecidableEq, Repr

/-! ### Tags -/

/-- A character at which an attribute's name ends. -/
def endsKey (c : Char) : Bool :=
  c == '=' || isSpace c

/-- Reads one attribute from a text that begins with it: a name of at least one character, an
equals sign and a quoted value.  Spaces may stand around the sign. -/
def readAttribute : List Char → Option ((List Char × List Char) × List Char)
  | [] => none
  | c :: rest =>
    match (rest.dropWhile (!endsKey ·)).dropWhile isSpace with
    | '=' :: afterSign =>
      match afterSign.dropWhile isSpace with
      | quote :: afterQuote =>
        if quote = '"' ∨ quote = '\'' then
          (cut (· == quote) afterQuote).map fun (value, _, rest') =>
            ((c :: rest.takeWhile (!endsKey ·), value), rest')
        else none
      | [] => none
    | _ => none

theorem length_dropWhile_le {α : Type} (p : α → Bool) (l : List α) :
  (l.dropWhile p).length ≤ l.length
  := (List.dropWhile_suffix p).length_le

theorem length_readAttribute
    {cs rest : List Char} {item : List Char × List Char}
    (h : readAttribute cs = some (item, rest)) :
  rest.length < cs.length
  := by
  cases cs with
  | nil => simp [readAttribute] at h
  | cons c cs =>
    simp only [readAttribute] at h
    split at h
    · rename_i afterSign hs
      split at h
      · rename_i quote afterQuote hq
        split at h
        · obtain ⟨⟨v, m, r⟩, hc, hr⟩ := Option.map_eq_some_iff.1 h
          simp only [Prod.mk.injEq] at hr
          obtain ⟨-, rfl⟩ := hr
          have h1 := length_cut hc
          have h2 := length_dropWhile_le isSpace afterSign
          have h3 := length_dropWhile_le isSpace (cs.dropWhile (!endsKey ·))
          have h4 := length_dropWhile_le (!endsKey ·) cs
          rw [hq] at h2
          rw [hs] at h3
          simp only [List.length_cons] at *
          omega
        · simp at h
      · simp at h
    · simp at h

/-- Reads the attributes of a tag, in order. -/
def readAttributes (cs : List Char) : Option (List (List Char × List Char)) :=
  match _hs : cs.dropWhile isSpace with
  | [] => some []
  | c :: rest =>
    match _h : readAttribute (c :: rest) with
    | none => none
    | some (item, rest') => (readAttributes rest').map (item :: ·)
termination_by cs.length
decreasing_by
  have h1 := length_readAttribute _h
  have h2 := length_dropWhile_le isSpace cs
  rw [_hs] at h2
  omega

/-- Reads a tag from what stands between its brackets.  No two attributes have one name. -/
def readTag (cs : List Char) : Option WrittenTag := do
  let attributes ← readAttributes (cs.dropWhile (!isSpace ·))
  if (attributes.map (·.1)).Nodup then some ⟨cs.takeWhile (!isSpace ·), attributes⟩ else none

/-- The name in an end tag, without the spaces after it; spaces alone are a name. -/
def readEndName (cs : List Char) : List Char :=
  if cs.all isSpace then cs else (cs.reverse.dropWhile isSpace).reverse

/-- The state of the quotes after a symbol of a tag: the quote that is open, if one is. -/
def quoteAfter (quote : Option Char) (s : Symbol) : Option Char :=
  match quote with
  | none => if s = some '"' ∨ s = some '\'' then s else none
  | some q => if s = some q then none else some q

/-- What stands before and after the bracket that closes a tag: the first one outside
quotes. -/
def cutTag (quote : Option Char) : List Symbol → Option (List Symbol × List Symbol)
  | [] => none
  | s :: rest =>
    if quote = none ∧ s = some '>' then some ([], rest)
    else (cutTag (quoteAfter quote s) rest).map fun (before, after) => (s :: before, after)

/-- A start tag or an empty tag, from what stands between its brackets. -/
def readOpening (symbols : List Symbol) : Option Token := do
  let cs ← characters? symbols
  if cs.getLast? = some '/' then (readTag cs.dropLast).map .emptyTag
  else (readTag cs).map .startTag

/-! ### Stretches without content -/

/-- What stands before and after the bracket that closes a document type declaration: the
first one that balances no opening bracket before it. -/
def cutDeclaration (depth : Nat) : List Symbol → Option (List Symbol × List Symbol)
  | [] => none
  | s :: rest =>
    if depth = 0 ∧ s = some '>' then some ([], rest)
    else
      let depth :=
        if s = some '<' then depth + 1 else if s = some '>' then depth - 1 else depth
      (cutDeclaration depth rest).map fun (before, after) => (s :: before, after)

/-- Symbols begin with a word, in any letter case.  The word is in small letters. -/
def beginsWithWord (word : List Char) (symbols : List Symbol) : Bool :=
  (symbols.take word.length).map (·.map Char.toLower) == word.map some

/-- A text as symbols. -/
def symbolsOf (s : String) : List Symbol :=
  s.toList.map some

/-- A symbol is a space within a tag. -/
def isSpaceSymbol (s : Symbol) : Bool :=
  s.any isSpace

/-! ### Tokens -/

/-- The parts of a stretch that a mark closes, put together as a token. -/
def closedBy
    (mark : String) (symbols : List Symbol) (token : List Symbol → Option Token) :
    Option (Token × List Symbol) := do
  let (content, rest) ← cutMark (symbolsOf mark) symbols
  let token ← token content
  return (token, rest)

/-- Reads a comment, a character data section or a document type declaration, from what
follows `<!`. -/
def readDeclaration (symbols : List Symbol) : Option (Token × List Symbol) :=
  if (symbolsOf "--").isPrefixOf symbols then
    closedBy "-->" (symbols.drop 2) fun _ => some .skipped
  else if (symbolsOf "[CDATA[").isPrefixOf symbols then
    closedBy "]]>" (symbols.drop 7) fun content => (characters? content).map .characterData
  else if beginsWithWord "doctype".toList symbols then do
    let (content, rest) ← cutDeclaration 0 symbols
    if (content.drop 7).all isSpaceSymbol then none else some (.skipped, rest)
  else none

/-- Reads a processing instruction, from what follows `<?`. -/
def readInstruction (symbols : List Symbol) : Option (Token × List Symbol) :=
  match symbols with
  | some '>' :: _ => none
  | symbols => closedBy "?>" symbols fun _ => some .skipped

/-- Reads a tag, from what follows `<`. -/
def readMarkup (symbols : List Symbol) : Option (Token × List Symbol) :=
  match symbols with
  | [] => none
  | some '!' :: rest => readDeclaration rest
  | some '?' :: rest => readInstruction rest
  | some '/' :: rest => do
    let (content, rest) ← cutTag none rest
    let cs ← characters? content
    return (.endTag (readEndName cs), rest)
  | symbols => do
    let (content, rest) ← cutTag none symbols
    let token ← readOpening content
    return (token, rest)

/-- A symbol at which the name of a reference in a text ends. -/
def endsName (s : Symbol) : Bool :=
  s == some ';' || s == some '&' || s == some '<'

/-- Reads a reference, from what follows `&`. -/
def readReference (symbols : List Symbol) : Option (Token × List Symbol) :=
  match cut endsName symbols with
  | some (name, some ';', rest) => (characters? name).map fun name => (.reference name, rest)
  | _ => none

/-- A symbol at which a text ends. -/
def endsText (s : Symbol) : Bool :=
  s == some '<' || s == some '&'

/-- Reads the token that symbols begin with. -/
def readToken (symbols : List Symbol) : Option (Token × List Symbol) :=
  match symbols with
  | [] => none
  | some '<' :: rest => readMarkup rest
  | some '&' :: rest => readReference rest
  | symbols =>
    (characters? (symbols.takeWhile (!endsText ·))).map fun cs =>
      (.text cs, symbols.dropWhile (!endsText ·))

/-! ### Every token is shorter than what it was read from -/

theorem length_cutTag
    {quote : Option Char} {l before after : List Symbol}
    (h : cutTag quote l = some (before, after)) :
  after.length < l.length
  := by
  induction l generalizing quote before with
  | nil => simp [cutTag] at h
  | cons s rest ih =>
    unfold cutTag at h
    split at h
    · simp only [Option.some.injEq, Prod.mk.injEq] at h
      simp [← h.2]
    · obtain ⟨⟨b, r⟩, hc, hb⟩ := Option.map_eq_some_iff.1 h
      simp only [Prod.mk.injEq] at hb
      obtain ⟨-, rfl⟩ := hb
      have := ih hc
      simp only [List.length_cons]
      omega

theorem length_cutDeclaration
    {depth : Nat} {l before after : List Symbol}
    (h : cutDeclaration depth l = some (before, after)) :
  after.length < l.length
  := by
  induction l generalizing depth before with
  | nil => simp [cutDeclaration] at h
  | cons s rest ih =>
    unfold cutDeclaration at h
    split at h
    · simp only [Option.some.injEq, Prod.mk.injEq] at h
      simp [← h.2]
    · obtain ⟨⟨b, r⟩, hc, hb⟩ := Option.map_eq_some_iff.1 h
      simp only [Prod.mk.injEq] at hb
      obtain ⟨-, rfl⟩ := hb
      have := ih hc
      simp only [List.length_cons]
      omega

theorem length_closedBy
    {mark : String} {symbols rest : List Symbol} {token : List Symbol → Option Token}
    {t : Token} (h : closedBy mark symbols token = some (t, rest)) :
  rest.length ≤ symbols.length
  := by
  simp only [closedBy, Option.bind_eq_bind, Option.pure_def, Option.bind_eq_some_iff,
    Option.some.injEq, Prod.mk.injEq, Prod.exists] at h
  obtain ⟨content, r, hc, t', -, -, rfl⟩ := h
  exact length_cutMark hc

theorem length_readDeclaration
    {symbols rest : List Symbol} {t : Token} (h : readDeclaration symbols = some (t, rest)) :
  rest.length ≤ symbols.length
  := by
  unfold readDeclaration at h
  split at h
  · have := length_closedBy h
    simp only [List.length_drop] at this
    omega
  · split at h
    · have := length_closedBy h
      simp only [List.length_drop] at this
      omega
    · split at h
      · simp only [Option.bind_eq_bind, Option.bind_eq_some_iff, Prod.exists] at h
        obtain ⟨content, r, hc, hr⟩ := h
        split at hr
        · simp at hr
        · simp only [Option.some.injEq, Prod.mk.injEq] at hr
          rw [← hr.2]
          exact Nat.le_of_lt (length_cutDeclaration hc)
      · simp at h

theorem length_readInstruction
    {symbols rest : List Symbol} {t : Token} (h : readInstruction symbols = some (t, rest)) :
  rest.length ≤ symbols.length
  := by
  unfold readInstruction at h
  split at h
  · simp at h
  · exact length_closedBy h

theorem length_readMarkup
    {symbols rest : List Symbol} {t : Token} (h : readMarkup symbols = some (t, rest)) :
  rest.length ≤ symbols.length
  := by
  unfold readMarkup at h
  split at h
  · simp at h
  · have := length_readDeclaration h
    simp only [List.length_cons]
    omega
  · have := length_readInstruction h
    simp only [List.length_cons]
    omega
  · simp only [Option.bind_eq_bind, Option.pure_def, Option.bind_eq_some_iff,
      Option.some.injEq, Prod.mk.injEq, Prod.exists] at h
    obtain ⟨content, r, hc, cs, -, -, rfl⟩ := h
    have := length_cutTag hc
    simp only [List.length_cons]
    omega
  · simp only [Option.bind_eq_bind, Option.pure_def, Option.bind_eq_some_iff,
      Option.some.injEq, Prod.mk.injEq, Prod.exists] at h
    obtain ⟨content, r, hc, cs, -, -, rfl⟩ := h
    exact Nat.le_of_lt (length_cutTag hc)

theorem length_readReference
    {symbols rest : List Symbol} {t : Token} (h : readReference symbols = some (t, rest)) :
  rest.length < symbols.length
  := by
  unfold readReference at h
  split at h
  · rename_i name r hc
    obtain ⟨n, -, hn⟩ := Option.map_eq_some_iff.1 h
    simp only [Prod.mk.injEq] at hn
    rw [← hn.2]
    exact length_cut hc
  · simp at h

theorem length_readToken
    {symbols rest : List Symbol} {t : Token} (h : readToken symbols = some (t, rest)) :
  rest.length < symbols.length
  := by
  unfold readToken at h
  split at h
  · simp at h
  · have := length_readMarkup h
    simp only [List.length_cons]
    omega
  · have := length_readReference h
    simp only [List.length_cons]
    omega
  · rename_i hne hlt hamp
    obtain ⟨cs, -, hcs⟩ := Option.map_eq_some_iff.1 h
    simp only [Prod.mk.injEq] at hcs
    rw [← hcs.2]
    cases symbols with
    | nil => exact absurd rfl hne
    | cons s rest =>
      have hs : endsText s = false := by
        have h1 : s ≠ some '<' := fun e => hlt rest (by rw [e])
        have h2 : s ≠ some '&' := fun e => hamp rest (by rw [e])
        simp [endsText, h1, h2]
      have := length_dropWhile_le (!endsText ·) rest
      simp only [List.dropWhile_cons, hs, Bool.not_false, ite_true, List.length_cons]
      omega

/-- The tokens of a document in order.  A place that is no token ends them with `none`. -/
def tokens (symbols : List Symbol) : List (Option Token) :=
  match symbols with
  | [] => []
  | s :: rest =>
    match _h : readToken (s :: rest) with
    | none => [none]
    | some (t, rest') => some t :: tokens rest'
termination_by symbols.length
decreasing_by exact length_readToken _h

end OlapClient.Markup
