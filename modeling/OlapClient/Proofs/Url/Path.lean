import Mathlib.Tactic.Common
import OlapClient.Proofs.Url.Percent
import OlapClient.Url.Basic

/-!
# Paths read back

The steps of a path that was read are encoded, hold no separator and lead on.  Such steps make a
path that is read as itself: `readPath_readPath`.
-/

namespace OlapClient.Url

open OlapClient.Text

/-! ### Steps that lead on -/

/-- A step that neither stays where it is nor leads back. -/
def LeadsOn (step : List Char) : Prop :=
  leadsBack step = false ∧ staysPut step = false

theorem leadsOn_nil :
  LeadsOn []
  := by
  constructor <;> decide

/-- The steps gone are steps of the path, an empty one, or had been gone before. -/
theorem mem_follow
    {gone steps : List (List Char)} {step : List Char} (h : step ∈ follow false gone steps) :
  step ∈ gone ∨ step = [] ∨ (step ∈ steps ∧ LeadsOn step)
  := by
  induction steps generalizing gone with
  | nil => exact .inl h
  | cons first rest ih =>
    rw [follow] at h
    have back : ∀ s ∈ goBack gone, s ∈ gone := by
      intro s hs
      cases gone with
      | nil => exact hs
      | cons last gone =>
        rw [goBack] at hs
        split at hs
        · exact hs
        · exact List.mem_cons_of_mem _ hs
    rcases ih h with before | empty | ⟨later, leads⟩
    · by_cases leads : leadsBack first
      · simp only [leads, if_true, Bool.true_or, Bool.and_true] at before
        split at before
        · rcases List.mem_cons.mp before with empty | before
          · exact .inr (.inl empty)
          · exact .inl (back _ before)
        · exact .inl (back _ before)
      · by_cases stays : staysPut first
        · simp only [leads, stays, Bool.false_eq_true, if_false, if_true, Bool.or_true,
            Bool.and_true] at before
          split at before
          · rcases List.mem_cons.mp before with empty | before
            · exact .inr (.inl empty)
            · exact .inl before
          · exact .inl before
        · simp only [leads, stays, Bool.false_eq_true, if_false, Bool.or_false, Bool.and_false,
            goOn, Bool.false_and] at before
          rcases List.mem_cons.mp before with here | before
          · rw [here]
            exact .inr (.inr ⟨by simp, by simpa using leads, by simpa using stays⟩)
          · exact .inl before
    · exact .inr (.inl empty)
    · exact .inr (.inr ⟨List.mem_cons_of_mem _ later, leads⟩)

theorem follow_ne_nil (gone : List (List Char)) {steps : List (List Char)} (h : steps ≠ []) :
  follow false gone steps ≠ []
  := by
  induction steps generalizing gone with
  | nil => contradiction
  | cons first rest ih =>
    rw [follow]
    by_cases last : rest = []
    · subst last
      by_cases leads : leadsBack first
      · simp [leads, follow]
      · by_cases stays : staysPut first <;> simp [leads, stays, follow, goOn]
    · apply ih _ last

/-- Steps that lead on are gone one after the other. -/
theorem follow_of_leadsOn (gone : List (List Char)) {steps : List (List Char)}
    (h : ∀ step ∈ steps, LeadsOn step) :
  follow false gone steps = steps.reverse ++ gone
  := by
  induction steps generalizing gone with
  | nil => rfl
  | cons first rest ih =>
    obtain ⟨leads, stays⟩ := h first (by simp)
    rw [follow]
    simp only [leads, stays, Bool.false_eq_true, if_false, Bool.or_false, Bool.and_false, goOn,
      Bool.false_and]
    rw [ih _ fun step hstep => h step (by simp [hstep])]
    simp

/-! ### Steps of a path that was read -/

/-- A step as it stands in a path: encoded, without separators, and leading on. -/
structure IsSettled (step : List Char) : Prop where
  plain : ∀ c ∈ step, specialInPath c = false
  slash : '/' ∉ step
  backslash : '\\' ∉ step
  leads : LeadsOn step

theorem isSettled_of_mem_readSteps {cs step : List Char} (h : step ∈ readSteps true false cs) :
  IsSettled step
  := by
  rw [readSteps, List.mem_reverse] at h
  rcases mem_follow h with h | rfl | ⟨listed, leads⟩
  · simp at h
  · constructor
    · simp
    · simp
    · simp
    · apply leadsOn_nil
  · obtain ⟨part, hpart, rfl⟩ := List.mem_map.mp listed
    constructor
    · intro c hc
      apply plain_of_mem_percentEncode spares_specialInPath hc
    · intro hc
      rcases plain_or_encoding_of_mem_percentEncode hc with ⟨hc, -⟩ | encoding
      · exact separator_not_mem_of_mem_splitBy hpart hc
      · exact absurd encoding (by decide)
    · intro hc
      rcases plain_or_encoding_of_mem_percentEncode hc with ⟨hc, -⟩ | encoding
      · obtain ⟨d, -, hd⟩ := List.mem_map.mp (mem_of_mem_splitBy hpart hc)
        split at hd
        · cases hd
        · rename_i separates
          apply separates
          rw [hd]
          rfl
      · exact absurd encoding (by decide)
    · exact leads

theorem readSteps_ne_nil (cs : List Char) :
  readSteps true false cs ≠ []
  := by
  rw [readSteps]
  intro h
  rw [List.reverse_eq_nil_iff] at h
  apply follow_ne_nil [] _ h
  intro none
  exact splitBy_ne_nil _ (List.map_eq_nil_iff.mp none)

/-! ### Paths of such steps -/

theorem stepsText_cons (step : List Char) (steps : List (List Char)) :
  stepsText (step :: steps) = '/' :: joinBy '/' (step :: steps)
  := by
  induction steps generalizing step with
  | nil => simp [stepsText, joinBy]
  | cons next steps ih =>
    have later := ih next
    rw [stepsText] at later
    rw [stepsText, List.flatMap_cons, later, joinBy_cons_cons]
    rfl

theorem readPath_stepsText {steps : List (List Char)} (some_step : steps ≠ [])
    (settled : ∀ step ∈ steps, IsSettled step) :
  readPath true (stepsText steps) = stepsText steps
  := by
  obtain ⟨step, rest, rfl⟩ := List.exists_cons_of_ne_nil some_step
  have dropped : dropSeparator true (stepsText (step :: rest)) = joinBy '/' (step :: rest) := by
    rw [stepsText_cons]
    rfl
  have marked : (joinBy '/' (step :: rest)).map
      (fun c => if separatesSteps true c then '/' else c) = joinBy '/' (step :: rest) := by
    rw [List.map_congr_left (g := id), List.map_id]
    intro c hc
    rcases mem_joinBy hc with rfl | ⟨other, listed, hc⟩
    · rfl
    · have backslash : c ≠ '\\' := by
        rintro rfl
        exact (settled other listed).backslash hc
      have slash : c ≠ '/' := by
        rintro rfl
        exact (settled other listed).slash hc
      simp [separatesSteps, backslash, slash]
  have encoded : (step :: rest).map (percentEncode specialInPath) = step :: rest := by
    rw [List.map_congr_left (g := id), List.map_id]
    intro other listed
    apply percentEncode_of_plain (settled other listed).plain
  rw [readPath, dropped, readSteps, marked,
    splitBy_joinBy some_step fun other listed => (settled other listed).slash, encoded,
    follow_of_leadsOn [] fun other listed => (settled other listed).leads]
  simp

/-- A path that was read is read as itself. -/
theorem readPath_readPath (cs : List Char) :
  readPath true (readPath true cs) = readPath true cs
  := readPath_stepsText (readSteps_ne_nil _) fun _ => isSettled_of_mem_readSteps

/-- A path that was read begins with a slash. -/
theorem exists_readPath_eq (cs : List Char) :
  ∃ rest, readPath true cs = '/' :: rest
  := by
  obtain ⟨step, rest, h⟩ := List.exists_cons_of_ne_nil (readSteps_ne_nil (dropSeparator true cs))
  rw [readPath, h, stepsText_cons]
  exact ⟨_, rfl⟩

theorem plain_of_mem_readPath {cs : List Char} {c : Char} (h : c ∈ readPath true cs) :
  specialInPath c = false
  := by
  obtain ⟨step, listed, h⟩ := List.mem_flatMap.mp h
  rcases List.mem_cons.mp h with rfl | h
  · rfl
  · apply (isSettled_of_mem_readSteps listed).plain c h

end OlapClient.Url
