/-!
# Cutting texts

`cut stop` parts a list at its first element that satisfies `stop`, and `cutMark mark` parts a
list at the first occurrence of `mark`.  Both give what stands before and what stands after,
neither of which holds the place of the cut, so what follows is shorter than the whole.
-/

namespace OlapClient.Text

variable {α : Type}

/-- What stands before and after the first element that satisfies `stop`, with that
element. -/
def cut (stop : α → Bool) : List α → Option (List α × α × List α)
  | [] => none
  | a :: rest =>
    if stop a then some ([], a, rest)
    else (cut stop rest).map fun (before, mark, after) => (a :: before, mark, after)

/-- What stands before and after the first occurrence of `mark`. -/
def cutMark [BEq α] (mark : List α) : List α → Option (List α × List α)
  | [] => if mark.isEmpty then some ([], []) else none
  | a :: rest =>
    if mark.isPrefixOf (a :: rest) then some ([], (a :: rest).drop mark.length)
    else (cutMark mark rest).map fun (before, after) => (a :: before, after)

/-- A cut puts the list together again, and no element before it satisfies `stop`. -/
theorem cut_eq_some
    {stop : α → Bool} {l before after : List α} {mark : α}
    (h : cut stop l = some (before, mark, after)) :
  l = before ++ mark :: after ∧ stop mark = true ∧ ∀ a ∈ before, stop a = false
  := by
  induction l generalizing before with
  | nil => simp [cut] at h
  | cons a rest ih =>
    unfold cut at h
    split at h
    · simp only [Option.some.injEq, Prod.mk.injEq] at h
      obtain ⟨rfl, rfl, rfl⟩ := h
      simpa
    · rename_i ha
      obtain ⟨⟨b, m, r⟩, hc, hb⟩ := Option.map_eq_some_iff.1 h
      simp only [Prod.mk.injEq] at hb
      obtain ⟨rfl, rfl, rfl⟩ := hb
      obtain ⟨rfl, hm, hall⟩ := ih hc
      refine ⟨rfl, hm, ?_⟩
      intro x hx
      rcases List.mem_cons.1 hx with rfl | hx
      · simpa using ha
      · exact hall x hx

/-- A list is cut at an element that satisfies `stop` when none before it does. -/
theorem cut_append
    {stop : α → Bool} {before : List α} {mark : α} (after : List α)
    (hm : stop mark = true) (hb : ∀ a ∈ before, stop a = false) :
  cut stop (before ++ mark :: after) = some (before, mark, after)
  := by
  induction before with
  | nil => simp [cut, hm]
  | cons a before ih =>
    have ha := hb a (by simp)
    simp [cut, ha, ih fun x hx => hb x (by simp [hx])]

theorem length_cut
    {stop : α → Bool} {l before after : List α} {mark : α}
    (h : cut stop l = some (before, mark, after)) :
  after.length < l.length
  := by
  obtain ⟨rfl, -, -⟩ := cut_eq_some h
  simp
  omega

theorem length_cutMark
    [BEq α] {mark l before after : List α}
    (h : cutMark mark l = some (before, after)) :
  after.length ≤ l.length
  := by
  induction l generalizing before with
  | nil =>
    unfold cutMark at h
    split at h
    · simp only [Option.some.injEq, Prod.mk.injEq] at h
      simp [← h.2]
    · simp at h
  | cons a rest ih =>
    unfold cutMark at h
    split at h
    · simp only [Option.some.injEq, Prod.mk.injEq] at h
      rw [← h.2, List.length_drop]
      omega
    · obtain ⟨⟨b, r⟩, hc, hb⟩ := Option.map_eq_some_iff.1 h
      simp only [Prod.mk.injEq] at hb
      obtain ⟨-, rfl⟩ := hb
      have := ih hc
      simp only [List.length_cons]
      omega

end OlapClient.Text
