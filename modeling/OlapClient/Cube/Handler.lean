import OlapClient.Cube.Axis
import OlapClient.Handling
import OlapClient.Markup.Element
import OlapClient.Text.Blank

/-!
# Reading a multidimensional result

`readCellSet` passes what a multidimensional result announces, its axes and its cells to a
handler, each kind as it comes in the document.  The read ends at the first part that cannot be
read or the first action that fails.  Of several properties of a member with one of the
well-known names the last one counts; any other property is kept.
-/

namespace OlapClient.Cube

open OlapClient.Markup
open OlapClient.Number
open OlapClient.Protocol
open OlapClient.Text

/-- A receiver of the parts of a multidimensional result. -/
structure CellHandler (σ : Type) where
  onInfo : CubeInfo → Handling σ Unit
  onAxis : Axis → Handling σ Unit
  onCell : Nat → Element → Handling σ Unit
  onFinish : Handling σ Unit

/-- An integer of the format `k` that a response gives as text. -/
def readNumber (k : IntKind) (text : String) : Except Failure (Bounded k) :=
  (readBounded 10 k text.toList).mapError fun fault => .malformed (.numeral fault)

/-- A member with one more property. -/
def Member.add (m : Member) (property : Element) : Except Failure Member :=
  let text := trimmed property.text
  match property.tag.localName with
  | "UName" => .ok { m with uniqueName := text }
  | "Caption" => .ok { m with caption := text }
  | "LName" => .ok { m with levelName := text }
  | "LNum" => (readNumber .int32 text).map fun n => { m with levelNumber := some n }
  | "DisplayInfo" => (readNumber .nat32 text).map fun n => { m with displayInfo := some n }
  | name => .ok { m with properties := m.properties ++ [(name, text)] }

/-- The member that an element describes. -/
def readMember (e : Element) : Except Failure Member :=
  e.children.foldlM Member.add (.ofHierarchy (e.valueOf "Hierarchy"))

/-- The tuple that an element describes. -/
def readTuple (e : Element) : Except Failure Tuple :=
  Tuple.mk <$> (e.findChildren datasetNs "Member").mapM readMember

/-- The elements of the tuples of an axis. -/
def tupleElements (axis : Element) : List Element :=
  match axis.findChild? datasetNs "Tuples" with
  | some tuples => tuples.findChildren datasetNs "Tuple"
  | none => []

/-- The axis that an element describes. -/
def readAxis (e : Element) : Except Failure Axis :=
  Axis.mk (e.valueOf "name") <$> (tupleElements e).mapM readTuple

/-- The place of a cell in the order of all cells. -/
def readOrdinal (cell : Element) : Except Failure Nat :=
  match cell.valueOf? "CellOrdinal" with
  | some text => (readNumber .nat64 (trimmed text)).map (·.val.toNat)
  | none => .error (.malformed .noCellOrdinal)

/-- The axis that an element announces. -/
def readAxisInfo (e : Element) : AxisInfo :=
  ⟨e.valueOf "name", (e.findChildren datasetNs "HierarchyInfo").map (·.valueOf "name")⟩

/-- The name of the cube that is announced. -/
def readCubeName (info : Element) : Option String := do
  let cubeInfo ← info.findChild? datasetNs "CubeInfo"
  let cube ← cubeInfo.findChild? datasetNs "Cube"
  let name ← cube.childText? datasetNs "CubeName"
  return trimmed name

/-- What a result announces about its cube. -/
def readInfo (root : Element) : CubeInfo :=
  match root.findChild? datasetNs "OlapInfo" with
  | none => .empty
  | some info =>
    let axes := match info.findChild? datasetNs "AxesInfo" with
      | some axes => (axes.findChildren datasetNs "AxisInfo").map readAxisInfo
      | none => []
    ⟨readCubeName info, axes⟩

variable {σ : Type}

/-- Passes an axis to a handler. -/
def passAxis (handler : CellHandler σ) (e : Element) : Handling σ Unit := do
  let axis ← Handling.ofExcept (readAxis e)
  handler.onAxis axis

/-- Passes a cell to a handler. -/
def passCell (handler : CellHandler σ) (e : Element) : Handling σ Unit := do
  let ordinal ← Handling.ofExcept (readOrdinal e)
  handler.onCell ordinal e

/-- Passes the axes or the cells of one part of a result to a handler; other parts hold
neither. -/
def passPart (handler : CellHandler σ) (part : Element) : Handling σ Unit :=
  if part.is datasetNs "Axes" then
    (part.findChildren datasetNs "Axis").forM (passAxis handler)
  else if part.is datasetNs "CellData" then
    (part.findChildren datasetNs "Cell").forM (passCell handler)
  else pure ()

/-- Passes the parts of a multidimensional result to a handler: the announcement, each axis and
each cell in document order, and the end. -/
def readRoot (handler : CellHandler σ) (root : Element) : Handling σ Unit := do
  handler.onInfo (readInfo root)
  root.children.forM (passPart handler)
  handler.onFinish

/-- Passes the multidimensional result within a `return` element to a handler. -/
def readCellSet (handler : CellHandler σ) (payload : Element) : Handling σ Unit :=
  match payload.findChild? datasetNs "root" with
  | some root => readRoot handler root
  | none => throw (.malformed .noDatasetRoot)

end OlapClient.Cube
