import Mathlib.Tactic.Common
import OlapClient.Cube.Handler
import OlapClient.Proofs.Handling.Actions
import OlapClient.Table.Handler

/-!
# The callbacks of a read

A read calls the actions of a handler.  A `recording` handler writes down each call, in order and
whatever comes of it, and does otherwise what another handler does: the read of a payload follows
the read through that other handler.
-/

namespace OlapClient

open OlapClient.Markup
open OlapClient.Protocol

/-- An action that also writes down an event, whatever comes of it. -/
def Handling.noting {σ ω : Type} (event : ω) (action : Handling σ Unit) :
    Handling (σ × List ω) Unit :=
  fun s =>
    match action s.1 with
    | .ok _ inner => .ok () (inner, s.2 ++ [event])
    | .error failure inner => .error failure (inner, s.2 ++ [event])

theorem Follows.noting {σ ω : Type} (event : ω) (action : Handling σ Unit) :
  Follows Prod.fst (Handling.noting event action) action
  := by
  intro s
  rw [Handling.noting]
  cases action s.1 <;> rfl

/-- A failure says that a response is malformed. -/
def IsMalformed (failure : Failure) : Prop :=
  ∃ defect, failure = .malformed defect

/-! ### Tabular results -/

namespace Table

variable {σ τ : Type}

/-- A call of a handler of tabular results. -/
inductive RowEvent where
  | columns (columns : List Column)
  | row (columns : List Column) (element : Element)
  | finish
  deriving DecidableEq, Repr

/-- A handler that writes down its calls, earliest first. -/
def RowHandler.recording (handler : RowHandler σ) : RowHandler (σ × List RowEvent) where
  onColumns columns := .noting (.columns columns) (handler.onColumns columns)
  onRow columns row := .noting (.row columns row) (handler.onRow columns row)
  onFinish := .noting .finish handler.onFinish

/-- A read follows the read through another handler when the actions of the handlers do. -/
theorem follows_readRowSet_of_follows
    {view : σ → τ} {handler : RowHandler σ} {other : RowHandler τ}
    (columns : ∀ columns, Follows view (handler.onColumns columns) (other.onColumns columns))
    (row : ∀ columns row, Follows view (handler.onRow columns row) (other.onRow columns row))
    (finish : Follows view handler.onFinish other.onFinish) (payload : Element) :
  Follows view (readRowSet handler payload) (readRowSet other payload)
  := by
  cases found : payload.findChild? rowsetNs "root" with
  | none =>
    simp only [readRowSet, found]
    apply Follows.throw
  | some root =>
    simp only [readRowSet, found]
    apply Follows.bind (columns _)
    intro _
    apply Follows.bind
    · apply Follows.forM
      intro element _
      apply row
    intro _
    apply finish

/-- The record of calls changes nothing else of a read. -/
theorem follows_readRowSet (handler : RowHandler σ) (payload : Element) :
  Follows Prod.fst (readRowSet handler.recording payload) (readRowSet handler payload)
  := by
  apply follows_readRowSet_of_follows
  · intro columns
    apply Follows.noting
  · intro columns row
    apply Follows.noting
  · apply Follows.noting

end Table

/-! ### Multidimensional results -/

namespace Cube

variable {σ τ : Type}

/-- A call of a handler of multidimensional results. -/
inductive CellEvent where
  | info (info : CubeInfo)
  | axis (axis : Axis)
  | cell (ordinal : Nat) (element : Element)
  | finish
  deriving DecidableEq, Repr

/-- A handler that writes down its calls, earliest first. -/
def CellHandler.recording (handler : CellHandler σ) : CellHandler (σ × List CellEvent) where
  onInfo info := .noting (.info info) (handler.onInfo info)
  onAxis axis := .noting (.axis axis) (handler.onAxis axis)
  onCell ordinal cell := .noting (.cell ordinal cell) (handler.onCell ordinal cell)
  onFinish := .noting .finish handler.onFinish

/-- A read of a part follows the read through another handler when the actions for axes and cells
do. -/
theorem follows_passPart
    {view : σ → τ} {handler : CellHandler σ} {other : CellHandler τ}
    (axis : ∀ axis, Follows view (handler.onAxis axis) (other.onAxis axis))
    (cell : ∀ ordinal cell, Follows view (handler.onCell ordinal cell) (other.onCell ordinal cell))
    (part : Element) :
  Follows view (passPart handler part) (passPart other part)
  := by
  unfold passPart
  split
  · apply Follows.forM
    intro element _
    apply Follows.bind (Follows.ofExcept _) axis
  · split
    · apply Follows.forM
      intro element _
      apply Follows.bind (Follows.ofExcept _)
      intro ordinal
      apply cell
    · apply Follows.pure

/-- A read follows the read through another handler when the actions of the handlers do. -/
theorem follows_readCellSet_of_follows
    {view : σ → τ} {handler : CellHandler σ} {other : CellHandler τ}
    (info : ∀ info, Follows view (handler.onInfo info) (other.onInfo info))
    (axis : ∀ axis, Follows view (handler.onAxis axis) (other.onAxis axis))
    (cell : ∀ ordinal cell, Follows view (handler.onCell ordinal cell) (other.onCell ordinal cell))
    (finish : Follows view handler.onFinish other.onFinish) (payload : Element) :
  Follows view (readCellSet handler payload) (readCellSet other payload)
  := by
  cases found : payload.findChild? datasetNs "root" with
  | none =>
    simp only [readCellSet, found]
    apply Follows.throw
  | some root =>
    simp only [readCellSet, found]
    apply Follows.bind (info _)
    intro _
    apply Follows.bind
    · apply Follows.forM
      intro part _
      apply follows_passPart axis cell
    intro _
    apply finish

/-- The record of calls changes nothing else of a read. -/
theorem follows_readCellSet (handler : CellHandler σ) (payload : Element) :
  Follows Prod.fst (readCellSet handler.recording payload) (readCellSet handler payload)
  := by
  apply follows_readCellSet_of_follows
  · intro info
    apply Follows.noting
  · intro axis
    apply Follows.noting
  · intro ordinal cell
    apply Follows.noting
  · apply Follows.noting

end Cube

end OlapClient
