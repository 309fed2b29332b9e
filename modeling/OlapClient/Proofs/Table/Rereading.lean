import Mathlib.Tactic.Common
import OlapClient.Proofs.Table.FirstRow
import OlapClient.Proofs.Table.Walk

/-!
# Reading again

A row set and a count may serve one read after another, and the cursor of the row set may be moved
in between.  `reads_start_over` says that a read leaves no trace of what came before it, that the
count always agrees with the row set, and that a payload without a result changes neither.

A handler of the first row does not start over.  `firstRow_held_iff` says that it hands on no row
once it has handed on one in any earlier read, and `firstRow_not_again` shows the second read of a
row set that is left without its row.
-/

namespace OlapClient.Table

open OlapClient.Markup
open OlapClient.Protocol

variable {σ : Type}

/-! ### Row sets and counts -/

/-- The number of columns and rows that a row set holds. -/
def RowSet.count (s : RowSet) : Count :=
  ⟨s.columns.length, s.rows.size⟩

/-- Counting keeps the numbers of what collecting holds. -/
theorem follows_counting (payload : Element) :
  Follows RowSet.count (readRowSet collecting payload) (readRowSet counting payload)
  := by
  apply follows_readRowSet_of_follows
  · intro columns s
    rfl
  · intro columns row
    apply Follows.modify
    intro s
    rw [RowSet.count, RowSet.push, Array.size_push]
    rfl
  · apply Follows.pure

theorem outcome_readRowSet_counting (payload : Element) (s : RowSet) :
  (readRowSet counting payload).outcome s.count
    = (((readRowSet collecting payload).outcome s).1,
      ((readRowSet collecting payload).outcome s).2.count)
  := by
  rw [outcome_eq_ending, outcome_eq_ending, (follows_counting payload).ending_eq]

/-- What is done to a row set and the count beside it: a payload is read into both, or the cursor of
the row set is moved. -/
inductive Use where
  | read (payload : Element)
  | move (m : Move)
  deriving DecidableEq, Repr

/-- A row set and a count after a use. -/
def use (s : RowSet × Count) : Use → RowSet × Count
  | .read payload => (((readRowSet collecting payload).outcome s.1).2,
      ((readRowSet counting payload).outcome s.2).2)
  | .move m => ((s.1.move m).1, s.2)

/-- A row set and a count after uses, one after the other. -/
def used (s : RowSet × Count) (uses : List Use) : RowSet × Count :=
  uses.foldl use s

theorem count_use {s : RowSet × Count} (agree : s.2 = s.1.count) (u : Use) :
  (use s u).2 = (use s u).1.count
  := by
  cases u with
  | read payload => rw [use, agree, outcome_readRowSet_counting]
  | move m =>
    rw [use, agree, RowSet.cursor_move]
    rfl

theorem count_used {s : RowSet × Count} (agree : s.2 = s.1.count) (uses : List Use) :
  (used s uses).2 = (used s uses).1.count
  := by
  induction uses generalizing s with
  | nil => apply agree
  | cons u uses ih => apply ih (count_use agree u)

/-- Movements alone move the cursor of the row set. -/
theorem used_moves (s : RowSet × Count) (moves : List Move) :
  used s (moves.map .move) = (s.1.final moves, s.2)
  := by
  induction moves generalizing s with
  | nil => rfl
  | cons m moves ih => apply ih

/-- What comes of reading a payload into a row set and the count beside it. -/
inductive Read (s : RowSet × Count) (payload : Element) : Prop where
  /-- The payload has no result: both reads fail, and change nothing. -/
  | refused (lacks : payload.findChild? rowsetNs "root" = none)
      (set : (readRowSet collecting payload).outcome s.1
        = (.error (.malformed .noRowsetRoot), s.1))
      (count : (readRowSet counting payload).outcome s.2
        = (.error (.malformed .noRowsetRoot), s.2))
  /-- The payload has a result: both reads succeed.  The row set becomes what an empty one becomes,
  with its cursor before the first row, the count is that of its columns and rows, and movements
  after the read start from there. -/
  | loaded (has : (payload.findChild? rowsetNs "root").isSome) (fresh : RowSet)
      (set : (readRowSet collecting payload).outcome s.1 = (.ok (), fresh))
      (anew : (readRowSet collecting payload).outcome .empty = (.ok (), fresh))
      (cursor : fresh.cursor = .start fresh.rows.size)
      (count : (readRowSet counting payload).outcome s.2
        = (.ok (), ⟨fresh.columns.length, fresh.rows.size⟩))
      (moved : ∀ moves : List Move,
        used s (.read payload :: moves.map .move) = (fresh.final moves, fresh.count))

theorem read_of_agree {s : RowSet × Count} (agree : s.2 = s.1.count) (payload : Element) :
  Read s payload
  := by
  cases found : payload.findChild? rowsetNs "root" with
  | none =>
    apply Read.refused found
    · apply outcome_readRowSet_of_none found
    · apply outcome_readRowSet_of_none found
  | some root =>
    have collected := outcome_readRowSet_collecting found
    have counted : (readRowSet counting payload).outcome s.2
        = (.ok (), (RowSet.ofRows (readColumns root) (rowElements root)).count) := by
      rw [agree, outcome_readRowSet_counting, collected]
    apply Read.loaded (by rw [found]; rfl) _ (collected s.1) (collected .empty) rfl counted
    intro moves
    have after : use s (.read payload) = (RowSet.ofRows (readColumns root) (rowElements root),
        (RowSet.ofRows (readColumns root) (rowElements root)).count) := by
      rw [use, collected, counted]
    rw [used, List.foldl_cons, after]
    apply used_moves

/-- Whatever was read into a row set and a count before, and however the cursor was moved in between,
the count is that of the columns and rows of the row set, and the next read starts over: a payload
with a result is read as into an empty row set, and one without a result changes nothing. -/
theorem reads_start_over (uses : List Use) (payload : Element) :
  (used (.empty, .zero) uses).2 = (used (.empty, .zero) uses).1.count
    ∧ Read (used (.empty, .zero) uses) payload
  := by
  have agree := @count_used (.empty, .zero) rfl uses
  use agree
  apply read_of_agree agree

/-! ### The first row -/

/-- The state of a handler after payloads were read one after the other, whatever came of each. -/
def readEach (handler : RowHandler σ) (s : σ) (payloads : List Element) : σ :=
  payloads.foldl (fun s payload => ((readRowSet handler payload).outcome s).2) s

/-- A payload has a result with a row. -/
def hasRow (payload : Element) : Bool :=
  match payload.findChild? rowsetNs "root" with
  | some root => !(rowElements root).isEmpty
  | none => false

/-- The children of a root that are rows by their namespace as well as by their name. -/
def ownRows (root : Element) : List Element :=
  root.findChildren rowsetNs "row"

theorem outcome_readRowSet_firstRow
    {payload root : Element} (found : payload.findChild? rowsetNs "root" = some root)
    (s : FirstRow RowSet) :
  (readRowSet (firstRow collecting) payload).outcome s
    = (.ok (), ⟨.ofRows (readColumns root) (handedOn s.found (rowElements root)),
      s.found || hasRow payload⟩)
  := by
  obtain ⟨held, before⟩ := s
  have collected (rows : List Element) : ending (passTable collecting (readColumns root) rows) held
      = (.ok (), .ofRows (readColumns root) rows) := by
    rw [ending, passTable_collecting]
  have accepted : (ending (collecting.onColumns (readColumns root)) held).1.isOk = true := rfl
  rw [outcome_eq_ending, ending_readRowSet_firstRow found, collected, accepted, hasRow, found]
  rfl

/-- A handler of the first row remembers every row that it came to. -/
theorem found_readEach (s : FirstRow RowSet) (payloads : List Element) :
  (readEach (firstRow collecting) s payloads).found = (s.found || payloads.any hasRow)
  := by
  induction payloads generalizing s with
  | nil => simp [readEach]
  | cons payload payloads ih =>
    have one : ((readRowSet (firstRow collecting) payload).outcome s).2.found
        = (s.found || hasRow payload) := by
      cases found : payload.findChild? rowsetNs "root" with
      | none => simp [outcome_readRowSet_of_none found, hasRow, found]
      | some root => rw [outcome_readRowSet_firstRow found]
    rw [readEach, List.foldl_cons, List.any_cons, ← Bool.or_assoc, ← one]
    apply ih

theorem ofRows_injective {columns : List Column} {rows rows' : List Element} :
  RowSet.ofRows columns rows = RowSet.ofRows columns rows' ↔ rows = rows'
  := by
  constructor
  · intro same
    apply Array.toList_inj.mpr (congrArg RowSet.rows same)
  · rintro rfl
    rfl

theorem handedOn_eq_take_iff (before : Bool) (rows rows' : List Element) :
  handedOn before rows = rows'.take 1 ↔ (if before then none else rows.head?) = rows'.head?
  := by
  cases before <;> cases rows <;> cases rows' <;> simp [handedOn]

theorem handedOn_eq_handedOn_false_iff (before : Bool) (rows : List Element) :
  handedOn before rows = handedOn false rows ↔ (before → rows = [])
  := by
  cases before <;> cases rows <;> simp [handedOn]

/-- A handler of the first row that has served earlier reads into a row set reads a result without a
failure, but it hands the first row on only where no earlier payload had a row.  So the row set is
what a new handler would make of it exactly when no earlier payload had a row or this one has none,
and it holds the first of the result's own rows exactly when this one is handed on. -/
theorem firstRow_held_iff
    {payload root : Element} (found : payload.findChild? rowsetNs "root" = some root)
    (earlier : List Element) (held : RowSet) :
  ∃ after, (readRowSet (firstRow collecting) payload).outcome
        (readEach (firstRow collecting) ⟨held, false⟩ earlier) = (.ok (), after)
    ∧ after.inner = .ofRows (readColumns root)
      (if earlier.any hasRow then [] else (rowElements root).take 1)
    ∧ (∀ held', after.inner
          = ((readRowSet (firstRow collecting) payload).outcome ⟨held', false⟩).2.inner
        ↔ (earlier.any hasRow → rowElements root = []))
    ∧ (after.inner = .ofRows (readColumns root) ((ownRows root).take 1)
        ↔ (if earlier.any hasRow then none else (rowElements root).head?) = (ownRows root).head?)
  := by
  have before : (readEach (firstRow collecting) ⟨held, false⟩ earlier).found
      = earlier.any hasRow := by
    rw [found_readEach, Bool.false_or]
  rw [outcome_readRowSet_firstRow found, before]
  refine ⟨_, rfl, rfl, ?anew, ?own⟩
  case anew =>
    intro held'
    rw [outcome_readRowSet_firstRow found, ofRows_injective]
    apply handedOn_eq_handedOn_false_iff
  case own =>
    rw [ofRows_injective]
    apply handedOn_eq_take_iff

/-- After a result of one row another one is read: the row set is left without its row. -/
theorem firstRow_held_iff_second :
  (numberedPayload ["2"]).findChild? rowsetNs "root" = some (numberedRoot ["2"])
    ∧ ∃ after, (readRowSet (firstRow collecting) (numberedPayload ["2"])).outcome
        (readEach (firstRow collecting) ⟨.empty, false⟩ [numberedPayload ["1"]]) = (.ok (), after)
      ∧ after.inner = .ofRows [] []
      ∧ after.inner ≠ .ofRows [] [rowNumbered "2"]
  := by
  have found := findChild?_numberedPayload ["2"]
  obtain ⟨after, read, held, -, own⟩ :=
    firstRow_held_iff found [numberedPayload ["1"]] .empty
  use found, after, read, held
  intro row
  cases own.mp row

/-- A result whose root has an element named as a row before its own row, in another namespace. -/
def strangerRoot : Element :=
  ⟨⟨"root", some rowsetNs, "root", []⟩, .ofNodes [
    .element ⟨⟨"v:row", some "urn:v", "row", []⟩, .ofNodes []⟩, .element (rowNumbered "1")]⟩

/-- A payload of such a result. -/
def strangerPayload : Element :=
  ⟨⟨"return", some xmlaNs, "return", []⟩, .ofNodes [.element strangerRoot]⟩

/-- A row set does not hold the first of a result's own rows after each read that one handler of the
first row serves: not after the second of two results of one row, and not after the first read of
a result where a stranger stands before the row. -/
theorem firstRow_not_again :
  (¬ ∀ (earlier : List Element) (payload root : Element) (held : RowSet),
      (∀ p ∈ earlier, ∃ root', p.findChild? rowsetNs "root" = some root') →
      payload.findChild? rowsetNs "root" = some root →
        ((readRowSet (firstRow collecting) payload).outcome
          (readEach (firstRow collecting) ⟨held, false⟩ earlier)).2.inner
          = .ofRows (readColumns root) ((rowElements root).take 1))
    ∧ ¬ ∀ (payload root : Element) (held : RowSet),
      payload.findChild? rowsetNs "root" = some root →
        ((readRowSet (firstRow collecting) payload).outcome ⟨held, false⟩).2.inner
          = .ofRows (readColumns root) ((ownRows root).take 1)
  := by
  constructor
  · intro holds
    have readable : ∀ p ∈ [numberedPayload ["1"]],
        ∃ root, p.findChild? rowsetNs "root" = some root := by
      rw [List.forall_mem_singleton]
      exact ⟨_, findChild?_numberedPayload ["1"]⟩
    have row := holds _ _ _ .empty readable (findChild?_numberedPayload ["2"])
    rw [outcome_readRowSet_firstRow (findChild?_numberedPayload ["2"]), found_readEach,
      ofRows_injective] at row
    cases row
  · intro holds
    have row := holds strangerPayload strangerRoot .empty rfl
    rw [outcome_readRowSet_firstRow rfl, ofRows_injective] at row
    apply absurd row
    decide

end OlapClient.Table
