import Mathlib.Tactic.Common
import OlapClient.Proofs.Markup.Branch

/-!
# The tags of a document as they are written

`writtenTags` lists the start tags and the empty tags among the tokens of a document.  No two
attributes of such a tag have one name, since a tag with two of them is no token.
-/

namespace OlapClient.Markup

open OlapClient.Text

/-- The tag of a token, if it is a start tag or an empty tag. -/
def Token.tag? : Token → Option WrittenTag
  | .startTag tag => some tag
  | .emptyTag tag => some tag
  | _ => none

/-- The tags of a document as they are written. -/
def writtenTags (bytes : Octets) : List WrittenTag :=
  (tokens (dropMark (decode bytes))).filterMap fun place => place.bind Token.tag?

/-- The namespaces that a tag declares are written without markup characters, those of references
included. -/
def WrittenTag.DeclaresPlainly (tag : WrittenTag) : Prop :=
  ∀ item ∈ tag.attributes, Scope.isDeclaring item.1 → item.2.any isMarkupOrQuote = false

instance (tag : WrittenTag) : Decidable tag.DeclaresPlainly :=
  inferInstanceAs (Decidable (∀ item ∈ tag.attributes,
    Scope.isDeclaring item.1 → item.2.any isMarkupOrQuote = false))

/-- No two attributes of a tag have one name. -/
def WrittenTag.Distinct (tag : WrittenTag) : Prop :=
  (tag.attributes.map (·.1)).Nodup

theorem distinct_of_readTag {cs : List Char} {tag : WrittenTag} (h : readTag cs = some tag) :
  tag.Distinct
  := by
  simp only [readTag, Option.bind_eq_bind, Option.bind_eq_some_iff] at h
  obtain ⟨attributes, -, h⟩ := h
  split at h
  · rename_i distinct
    cases h
    apply distinct
  · cases h

theorem distinct_of_readOpening
    {symbols : List Symbol} {token : Token} (h : readOpening symbols = some token) :
  ∀ tag ∈ token.tag?, tag.Distinct
  := by
  simp only [readOpening, Option.bind_eq_bind, Option.bind_eq_some_iff] at h
  obtain ⟨cs, -, h⟩ := h
  split at h
  all_goals
    obtain ⟨tag, read, rfl⟩ := Option.map_eq_some_iff.mp h
    rintro _ ⟨⟩
    apply distinct_of_readTag read

/-- What a mark closes is no tag when what stands before the mark makes none. -/
theorem tag?_of_closedBy
    {mark : String} {symbols rest : List Symbol} {token : List Symbol → Option Token} {t : Token}
    (h : closedBy mark symbols token = some (t, rest))
    (no_tag : ∀ content t', token content = some t' → t'.tag? = none) :
  t.tag? = none
  := by
  simp only [closedBy, Option.bind_eq_bind, Option.pure_def, Option.bind_eq_some_iff,
    Option.some.injEq, Prod.mk.injEq, Prod.exists] at h
  obtain ⟨content, -, -, t', made, rfl, -⟩ := h
  apply no_tag content t' made

theorem tag?_of_readDeclaration
    {symbols rest : List Symbol} {t : Token} (h : readDeclaration symbols = some (t, rest)) :
  t.tag? = none
  := by
  unfold readDeclaration at h
  split at h
  · apply tag?_of_closedBy h
    rintro _ _ ⟨⟩
    rfl
  · split at h
    · apply tag?_of_closedBy h
      intro content t' made
      obtain ⟨cs, -, rfl⟩ := Option.map_eq_some_iff.mp made
      rfl
    · split at h
      · simp only [Option.bind_eq_bind, Option.bind_eq_some_iff, Prod.exists] at h
        obtain ⟨content, after, -, h⟩ := h
        split at h
        · cases h
        · cases h
          rfl
      · cases h

theorem tag?_of_readInstruction
    {symbols rest : List Symbol} {t : Token} (h : readInstruction symbols = some (t, rest)) :
  t.tag? = none
  := by
  unfold readInstruction at h
  split at h
  · cases h
  · apply tag?_of_closedBy h
    rintro _ _ ⟨⟩
    rfl

theorem distinct_of_readMarkup
    {symbols rest : List Symbol} {t : Token} (h : readMarkup symbols = some (t, rest)) :
  ∀ tag ∈ t.tag?, tag.Distinct
  := by
  unfold readMarkup at h
  split at h
  · cases h
  · simp [tag?_of_readDeclaration h]
  · simp [tag?_of_readInstruction h]
  · simp only [Option.bind_eq_bind, Option.pure_def, Option.bind_eq_some_iff, Option.some.injEq,
      Prod.mk.injEq, Prod.exists] at h
    obtain ⟨content, -, -, cs, -, rfl, -⟩ := h
    simp [Token.tag?]
  · simp only [Option.bind_eq_bind, Option.pure_def, Option.bind_eq_some_iff, Option.some.injEq,
      Prod.mk.injEq, Prod.exists] at h
    obtain ⟨content, -, -, t', opening, rfl, -⟩ := h
    apply distinct_of_readOpening opening

theorem distinct_of_readToken
    {symbols rest : List Symbol} {t : Token} (h : readToken symbols = some (t, rest)) :
  ∀ tag ∈ t.tag?, tag.Distinct
  := by
  unfold readToken at h
  split at h
  · cases h
  · apply distinct_of_readMarkup h
  · unfold readReference at h
    split at h
    · obtain ⟨name, -, h⟩ := Option.map_eq_some_iff.mp h
      cases h
      simp [Token.tag?]
    · cases h
  · obtain ⟨cs, -, h⟩ := Option.map_eq_some_iff.mp h
    cases h
    simp [Token.tag?]

/-- In a document no two attributes of a tag have one name. -/
theorem distinct_of_mem_tokens
    {symbols : List Symbol} {t : Token} (h : some t ∈ tokens symbols) :
  ∀ tag ∈ t.tag?, tag.Distinct
  := by
  induction symbols using tokens.induct with
  | case1 => simp [tokens] at h
  | case2 s rest fails =>
    rw [tokens] at h
    split at h
    · simp at h
    · rename_i read
      rw [fails] at read
      cases read
  | case3 s rest t' rest' read ih =>
    rw [Builder.tokens_of_readToken read] at h
    rcases List.mem_cons.mp h with h | later
    · cases h
      apply distinct_of_readToken read
    · apply ih later

end OlapClient.Markup
