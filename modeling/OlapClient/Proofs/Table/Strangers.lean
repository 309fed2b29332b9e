import Mathlib.Tactic.Common
import OlapClient.Proofs.Table.Rereading

/-!
# Strangers among the rows

The rows of a result are children of its root with the name and the namespace of a row.  A stranger
is a child with that name and another namespace, or none.  A read tells them apart by the name only,
so it hands strangers over as rows.  `rows_own_iff` says that every handler is given the result's
own rows, each in its turn, and nothing else exactly when the root has no stranger;
`stranger_delivered` has a root with one.
-/

namespace OlapClient.Table

open OlapClient.Markup
open OlapClient.Protocol

variable {σ : Type}

/-! ### What is handed over -/

/-- The element that a call hands over as a row. -/
def RowEvent.row? : RowEvent → Option Element
  | .row _ element => some element
  | .columns _ | .finish => none

/-- The elements that a read hands over as rows to a handler that begins in a state, in order. -/
def RowHandler.delivered (handler : RowHandler σ) (payload : Element) (s : σ) : List Element :=
  ((handler.calls payload s).map Called.event).filterMap RowEvent.row?

theorem filterMap_row?_schedule (root : Element) :
  (schedule root).filterMap RowEvent.row? = rowElements root
  := by
  have rows : ((rowElements root).map (.row (readColumns root))).filterMap RowEvent.row?
      = rowElements root := by
    rw [List.filterMap_map]
    apply List.filterMap_some
  rw [schedule, List.cons_append, List.filterMap_cons_none rfl, List.filterMap_append, rows]
  apply List.append_nil

section Found

variable {payload root : Element} (found : payload.findChild? rowsetNs "root" = some root)
  (handler : RowHandler σ) (s : σ)

include found

theorem delivered_isPrefix :
  handler.delivered payload s <+: rowElements root
  := by
  have calls := (fulfils_schedule found handler s).isPrefix_of_readable
  rw [← filterMap_row?_schedule]
  apply calls.filterMap

theorem delivered_eq (succeeds : (ending (readRowSet handler payload) s).1 = .ok ()) :
  handler.delivered payload s = rowElements root
  := by
  have fulfils := fulfils_schedule found handler s
  have calls := fulfils.complete_of_readable (fulfils.succeeded_of_mem succeeds)
  rw [RowHandler.delivered, calls, filterMap_row?_schedule]

end Found

/-! ### Own rows and strangers -/

/-- No child of a root that is named as a row has another namespace than a row. -/
def HasNoStranger (root : Element) : Prop :=
  ∀ e ∈ root.children, e.tag.localName = "row" → e.tag.ns = some rowsetNs

instance (root : Element) : Decidable (HasNoStranger root) :=
  inferInstanceAs (Decidable (∀ e ∈ root.children, _))

theorem is_row_iff (e : Element) :
  e.is rowsetNs "row" ↔ e.tag.localName = "row" ∧ e.tag.ns = some rowsetNs
  := by
  simp [Element.is, Tag.is]

theorem mem_rowElements_iff {root e : Element} :
  e ∈ rowElements root ↔ e ∈ root.children ∧ e.tag.localName = "row"
  := by
  simp [rowElements]

theorem ownRows_eq_filter (root : Element) :
  ownRows root = (rowElements root).filter (·.is rowsetNs "row")
  := by
  rw [ownRows, Element.findChildren, rowElements, List.filter_filter]
  apply List.filter_congr
  intro e _
  cases named : e.tag.localName == "row" <;> simp [Element.is, Tag.is, named]

theorem rowElements_eq_ownRows_iff (root : Element) :
  rowElements root = ownRows root ↔ HasNoStranger root
  := by
  rw [ownRows_eq_filter, eq_comm, List.filter_eq_self]
  constructor
  · intro own e child named
    apply ((is_row_iff e).mp (own e (mem_rowElements_iff.mpr ⟨child, named⟩))).2
  · intro own e mem
    obtain ⟨child, named⟩ := mem_rowElements_iff.mp mem
    apply (is_row_iff e).mpr ⟨named, own e child named⟩

/-- Own rows are a part of what is named as a row, so there are as many only where these are all. -/
theorem length_rowElements_eq_iff (root : Element) :
  (rowElements root).length = (ownRows root).length ↔ HasNoStranger root
  := by
  rw [← rowElements_eq_ownRows_iff]
  constructor
  · intro lengths
    have part : (ownRows root).Sublist (rowElements root) := by
      rw [ownRows_eq_filter]
      apply List.filter_sublist
    apply (part.eq_of_length lengths.symm).symm
  · apply congrArg List.length

/-- The first of the elements named as rows are the first of the own rows when they are own rows. -/
theorem isPrefix_ownRows_iff
    {root : Element} {delivered : List Element} (first : delivered <+: rowElements root) :
  delivered <+: ownRows root ↔ ∀ e ∈ delivered, e.tag.ns = some rowsetNs
  := by
  constructor
  · intro own e mem
    have row : e.is rowsetNs "row" := (List.mem_filter.mp (own.subset mem)).2
    apply ((is_row_iff e).mp row).2
  · intro own
    have all : delivered.filter (·.is rowsetNs "row") = delivered := by
      rw [List.filter_eq_self]
      intro e mem
      apply (is_row_iff e).mpr ⟨(mem_rowElements_iff.mp (first.subset mem)).2, own e mem⟩
    rw [← all, ownRows_eq_filter]
    apply first.filter

/-- What a read of a result that ends so hands over as rows. -/
structure HandedOver (root : Element) (result : Except Failure Unit) (delivered : List Element) :
    Prop where
  /-- The children of the root that are named as rows are handed over in document order, -/
  named : delivered <+: rowElements root
  /-- so that no own row is left out before one that is handed over. -/
  own : delivered.filter (·.is rowsetNs "row") <+: ownRows root
  /-- These are the own rows, each in its turn, exactly when no stranger is among them. -/
  own_iff : delivered <+: ownRows root ↔ ∀ e ∈ delivered, e.tag.ns = some rowsetNs
  /-- A read that succeeds hands over all of them. -/
  whole : result = .ok () → delivered = rowElements root
    ∧ (delivered = ownRows root ↔ HasNoStranger root)

theorem handedOver_of_found
    {payload root : Element} (found : payload.findChild? rowsetNs "root" = some root)
    (handler : RowHandler σ) (s : σ) :
  HandedOver root (ending (readRowSet handler payload) s).1 (handler.delivered payload s)
  := by
  have named := delivered_isPrefix found handler s
  constructor
  · apply named
  · rw [ownRows_eq_filter]
    apply named.filter
  · apply isPrefix_ownRows_iff named
  · intro succeeds
    have whole := delivered_eq found handler s succeeds
    use whole
    rw [whole, rowElements_eq_ownRows_iff]

theorem outcome_counting_of_found
    {payload root : Element} (found : payload.findChild? rowsetNs "root" = some root) :
  (readRowSet counting payload).outcome .zero
    = (.ok (), ⟨(readColumns root).length, (rowElements root).length⟩)
  := by
  have counted := outcome_readRowSet_counting payload .empty
  rw [outcome_readRowSet_collecting found] at counted
  apply counted

/-- A row set that is handed nothing but own rows shows that there is no stranger. -/
theorem hasNoStranger_of_delivered
    {payload root : Element} (found : payload.findChild? rowsetNs "root" = some root)
    {held : RowSet} (own : collecting.delivered payload held <+: ownRows root) :
  HasNoStranger root
  := by
  have read : (ending (readRowSet collecting payload) held).1 = .ok () := by
    rw [← outcome_eq_ending, outcome_readRowSet_collecting found]
  obtain ⟨all, same⟩ := (handedOver_of_found found collecting held).whole read
  apply same.mp
  apply own.eq_of_length_le
  rw [all, ownRows_eq_filter]
  apply List.length_filter_le

/-- Every handler is handed the children of a root that are named as rows, in document order, up to
the first call that fails.  The result's own rows are among them, each in its turn, and nothing else
is handed over, to any handler, exactly when the root has no stranger.  A count of rows is the
number of own rows in that case only.  That the calls are written down changes nothing else. -/
theorem rows_own_iff
    {payload root : Element} (found : payload.findChild? rowsetNs "root" = some root) :
  (∀ {σ : Type} (handler : RowHandler σ) (s : σ),
      Follows Prod.fst (readRowSet handler.logging payload) (readRowSet handler payload)
      ∧ HandedOver root (ending (readRowSet handler payload) s).1 (handler.delivered payload s))
    ∧ ((∀ {σ : Type} (handler : RowHandler σ) (s : σ),
        handler.delivered payload s <+: ownRows root) ↔ HasNoStranger root)
    ∧ ∃ count, (readRowSet counting payload).outcome .zero = (.ok (), count)
      ∧ (count.rows = (ownRows root).length ↔ HasNoStranger root)
  := by
  refine ⟨?each, ?every, ?count⟩
  case each =>
    intro σ handler s
    use follows_readRowSet_logging handler payload
    apply handedOver_of_found found
  case every =>
    constructor
    · intro own
      apply hasNoStranger_of_delivered found (own collecting .empty)
    · intro none σ handler s
      rw [← (rowElements_eq_ownRows_iff root).mpr none]
      apply delivered_isPrefix found
  case count =>
    refine ⟨_, outcome_counting_of_found found, ?_⟩
    apply length_rowElements_eq_iff

theorem rows_own_iff_numbered :
  (numberedPayload ["1", "2"]).findChild? rowsetNs "root" = some (numberedRoot ["1", "2"])
    ∧ HasNoStranger (numberedRoot ["1", "2"])
    ∧ declining.delivered (numberedPayload ["1", "2"]) 0 <+: [rowNumbered "1", rowNumbered "2"]
  := by
  have found := findChild?_numberedPayload ["1", "2"]
  have none : HasNoStranger (numberedRoot ["1", "2"]) := by decide
  obtain ⟨-, every, -⟩ := rows_own_iff found
  exact ⟨found, none, every.mpr none declining 0⟩

/-- A stranger is handed over before the row of its result. -/
theorem stranger_delivered :
  ¬ ∀ (payload root : Element), payload.findChild? rowsetNs "root" = some root →
    ∀ {σ : Type} (handler : RowHandler σ) (s : σ), handler.delivered payload s <+: ownRows root
  := by
  intro own
  have found : strangerPayload.findChild? rowsetNs "root" = some strangerRoot := rfl
  have none := hasNoStranger_of_delivered found (own _ _ found collecting .empty)
  apply absurd none
  decide

end OlapClient.Table
