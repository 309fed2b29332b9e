import Mathlib.Data.List.Forall2
import Mathlib.Tactic.Common

/-!
# Results of readings

The result of a reading is what was read or a failure.  `mapM_eq_ok_iff` says that entries which are
read one after the other are read as what each of them is read as.  A failure of the whole is the
failure of the first of them that fails (`mapM_eq_error_iff`).
-/

namespace OlapClient

variable {ε ε' α β : Type}

/-! ### One reading -/

theorem mapError_eq_ok_iff {f : ε → ε'} {x : Except ε α} {a : α} :
  x.mapError f = .ok a ↔ x = .ok a
  := by cases x <;> simp [Except.mapError]

theorem map_eq_ok_iff {f : α → β} {x : Except ε α} {b : β} :
  f <$> x = .ok b ↔ ∃ a, x = .ok a ∧ b = f a
  := by
  cases x with
  | error e => simp [Functor.map, Except.map]
  | ok a => simp [Functor.map, Except.map, eq_comm]

theorem bind_eq_ok_iff {x : Except ε α} {f : α → Except ε β} {b : β} :
  x >>= f = .ok b ↔ ∃ a, x = .ok a ∧ f a = .ok b
  := by cases x <;> simp [Bind.bind, Except.bind]

/-! ### Failures among readings -/

/-- Of entries that are read one after the other, the first that fails ends the reading. -/
theorem mapM_eq_error_iff {f : α → Except ε β} {l : List α} {e : ε} :
  l.mapM f = .error e ↔ ∃ before a after bs, l = before ++ a :: after
    ∧ List.Forall₂ (fun a b => f a = .ok b) before bs ∧ f a = .error e
  := by
  constructor
  · intro h
    induction l with
    | nil => cases h
    | cons a l ih =>
      rw [List.mapM_cons] at h
      cases first : f a with
      | error e' =>
        rw [first] at h
        cases h
        exact ⟨[], a, l, [], rfl, .nil, first⟩
      | ok b =>
        cases rest : l.mapM f with
        | ok bs =>
          rw [first, rest] at h
          cases h
        | error e' =>
          rw [first, rest] at h
          cases h
          obtain ⟨before, a', after, bs, rfl, earlier, failed⟩ := ih rest
          exact ⟨a :: before, a', after, b :: bs, rfl, .cons first earlier, failed⟩
  · rintro ⟨before, a, after, bs, rfl, earlier, failed⟩
    induction earlier with
    | nil =>
      rw [List.nil_append, List.mapM_cons, failed]
      rfl
    | cons first _ ih =>
      rw [List.cons_append, List.mapM_cons, first, ih]
      rfl

theorem exists_of_mapM_eq_error {f : α → Except ε β} {l : List α} {e : ε}
    (h : l.mapM f = .error e) :
  ∃ a ∈ l, f a = .error e
  := by
  obtain ⟨before, a, after, -, rfl, -, failed⟩ := mapM_eq_error_iff.mp h
  exact ⟨a, List.mem_append_cons_self, failed⟩

theorem exists_of_foldlM_eq_error {f : β → α → Except ε β} {l : List α} {b : β} {e : ε}
    (h : l.foldlM f b = .error e) :
  ∃ b', ∃ a ∈ l, f b' a = .error e
  := by
  induction l generalizing b with
  | nil => cases h
  | cons a l ih =>
    rw [List.foldlM_cons] at h
    cases first : f b a with
    | error e' =>
      rw [first] at h
      cases h
      exact ⟨b, a, List.mem_cons_self, first⟩
    | ok b' =>
      rw [first] at h
      obtain ⟨b'', a', mem, failed⟩ := ih h
      exact ⟨b'', a', List.mem_cons_of_mem a mem, failed⟩

/-! ### Readings that succeed -/

/-- Entries are read one after the other. -/
theorem mapM_eq_ok_iff {f : α → Except ε β} {l : List α} {bs : List β} :
  l.mapM f = .ok bs ↔ List.Forall₂ (fun a b => f a = .ok b) l bs
  := by
  constructor
  · intro h
    induction l generalizing bs with
    | nil =>
      cases h
      apply List.Forall₂.nil
    | cons a l ih =>
      rw [List.mapM_cons, bind_eq_ok_iff] at h
      obtain ⟨b, first, rest⟩ := h
      rw [bind_eq_ok_iff] at rest
      obtain ⟨bs', rest, same⟩ := rest
      cases same
      exact List.Forall₂.cons first (ih rest)
  · intro each
    induction each with
    | nil => rfl
    | cons first _ ih =>
      rw [List.mapM_cons, first, ih]
      rfl

theorem exists_mapM_eq_ok_iff {f : α → Except ε β} {l : List α} :
  (∃ bs, l.mapM f = .ok bs) ↔ ∀ a ∈ l, ∃ b, f a = .ok b
  := by
  constructor
  · rintro ⟨bs, read⟩
    rw [mapM_eq_ok_iff] at read
    induction read with
    | nil => simp
    | cons first _ ih =>
      rw [List.forall_mem_cons]
      exact ⟨⟨_, first⟩, ih⟩
  · intro each
    cases read : l.mapM f with
    | ok bs => exact ⟨bs, rfl⟩
    | error e =>
      obtain ⟨a, mem, failed⟩ := exists_of_mapM_eq_error read
      obtain ⟨b, succeeded⟩ := each a mem
      rw [failed] at succeeded
      cases succeeded

/-- Steps that succeed one by one succeed together. -/
theorem mapM_eq_ok_of_forall₂
    {γ : Type} {f : α → Except ε β} {R : β → γ → Prop} {as : List α} {cs : List γ}
    (each : List.Forall₂ (fun a c => ∃ b, f a = .ok b ∧ R b c) as cs) :
  ∃ bs, as.mapM f = .ok bs ∧ List.Forall₂ R bs cs
  := by
  induction each with
  | nil => exact ⟨[], rfl, .nil⟩
  | cons first _ ih =>
    obtain ⟨b, read, related⟩ := first
    obtain ⟨bs, reads, all_related⟩ := ih
    use b :: bs
    constructor
    · rw [List.mapM_cons, read, reads]
      rfl
    · apply List.Forall₂.cons related all_related

/-- Entries that are looked up one after the other are found when each of them is. -/
theorem mapM_eq_some_iff {f : α → Option β} {as : List α} {bs : List β} :
  as.mapM f = some bs ↔ List.Forall₂ (fun b a => f a = some b) bs as
  := by
  induction as generalizing bs with
  | nil =>
    rw [List.forall₂_nil_right_iff]
    simp [eq_comm]
  | cons a as ih =>
    rw [List.forall₂_cons_right_iff]
    simp only [List.mapM_cons, Option.bind_eq_bind, Option.bind_eq_some_iff, Option.pure_def,
      Option.some.injEq, ih, exists_and_left]
    grind

theorem exists_of_mem_of_mapM_eq_some
    {f : α → Option β} {as : List α} {bs : List β} (h : as.mapM f = some bs) {b : β}
    (hb : b ∈ bs) :
  ∃ a ∈ as, f a = some b
  := by
  induction mapM_eq_some_iff.mp h with
  | nil => simp at hb
  | @cons b' a bs as first rest ih =>
    rcases List.mem_cons.mp hb with rfl | hb
    · exact ⟨a, by simp, first⟩
    · obtain ⟨a', listed, found⟩ := ih (mapM_eq_some_iff.mpr rest) hb
      exact ⟨a', List.mem_cons_of_mem _ listed, found⟩

theorem exists_of_mapM_eq_some
    {f : α → Option β} {as : List α} {bs : List β} (h : as.mapM f = some bs) {a : α}
    (ha : a ∈ as) :
  ∃ b, f a = some b
  := by
  induction mapM_eq_some_iff.mp h with
  | nil => simp at ha
  | @cons b a' bs as first rest ih =>
    rcases List.mem_cons.mp ha with rfl | ha
    · exact ⟨b, first⟩
    · exact ih (mapM_eq_some_iff.mpr rest) ha

/-- Where a condition says of an entry that it can be added to whatever was read before, entries are
added one after the other when all of them meet it. -/
theorem exists_foldlM_eq_ok_iff
    {f : β → α → Except ε β} {P : α → Prop} (step : ∀ b a, (∃ b', f b a = .ok b') ↔ P a)
    {l : List α} {b : β} :
  (∃ b', l.foldlM f b = .ok b') ↔ ∀ a ∈ l, P a
  := by
  induction l generalizing b with
  | nil => simp [Pure.pure, Except.pure]
  | cons a l ih =>
    simp only [List.foldlM_cons, bind_eq_ok_iff, List.forall_mem_cons]
    constructor
    · rintro ⟨b', b'', first, rest⟩
      exact ⟨(step b a).mp ⟨b'', first⟩, ih.mp ⟨b', rest⟩⟩
    · rintro ⟨first, rest⟩
      obtain ⟨b'', first⟩ := (step b a).mpr first
      obtain ⟨b', rest⟩ := ih.mpr rest
      exact ⟨b', b'', first, rest⟩

end OlapClient
