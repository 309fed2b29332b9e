import Std.Data.ExtTreeMap
import OlapClient.Cube.Handler
import OlapClient.Value.Decoding
import OlapClient.Value.Field

/-!
# Cell sets

A `CellSet` holds a multidimensional result.  Its cells are numbered along the axes, the first
axis varying fastest: `ordinalOf` goes from the coordinates of a cell to its number and
`coordinatesOf` back.  Only the cells that the provider sent are stored, and any other cell is
`null`.
-/

namespace OlapClient.Cube

open OlapClient.Markup
open OlapClient.Number
open OlapClient.Protocol
open OlapClient.Schema

/-- A multidimensional result. -/
structure CellSet where
  info : CubeInfo
  /-- The axes of the query, without the slicer. -/
  axes : List Axis
  /-- The slicer, if there is one. -/
  slicer : Option Axis
  /-- The cells that were sent, by number. -/
  cells : Std.ExtTreeMap Nat Element

/-- A cell of a result: its number, and its element if it was sent. -/
structure Cell where
  ordinal : Nat
  element : Option Element
  deriving DecidableEq, Repr

namespace Cell

/-- The element of the cell's value. -/
def valueElement? (c : Cell) : Option Element :=
  c.element.bind fun e => e.findChild? datasetNs "Value"

/-- The cell has no value. -/
def isNull (c : Cell) : Bool :=
  c.valueElement?.isNone

/-- The type that the value's element names: by the namespace of instances, failing that by
the attribute written `xsi:type`. -/
def type (c : Cell) : SchemaType :=
  let name := c.valueElement?.bind fun e => (e.valueOfNs? instanceNs "type").or
    (e.valueOf? "xsi:type")
  .ofName (name.getD "")

/-- The value of the cell. -/
def value (c : Cell) : Except Failure Value :=
  match c.element with
  | some e => readField e datasetNs "Value" c.type
  | none => .ok .null

/-- The value of the cell, as what `decode` makes of it. -/
def get {α : Type} (c : Cell) (decode : Value → Except Failure α) : Except Failure α := do
  let value ← c.value
  decode value

/-- The text of a property of the cell. -/
def property? (c : Cell) (name : String) : Option String :=
  c.element.bind fun e => e.childText? datasetNs name

/-- The value as the provider formats it. -/
def formatted? (c : Cell) : Option String :=
  c.property? "FmtValue"

end Cell

namespace CellSet

/-- A cell set that nothing was read into. -/
def empty : CellSet :=
  ⟨.empty, [], none, ∅⟩

/-- The lengths of the axes, in order. -/
def lengths (s : CellSet) : List Nat :=
  s.axes.map Axis.length

/-- The product of lengths, multiplied up from the front; nothing when a product on the way is
beyond the greatest size. -/
def boundedProduct (count : Nat) : List Nat → Option Nat
  | [] => some count
  | length :: rest =>
    if count * length ≤ maxSize then boundedProduct (count * length) rest else none

/-- The number of cells that the axes span. -/
def cellCount (s : CellSet) : Except Failure Nat :=
  match boundedProduct 1 s.lengths with
  | some count => .ok count
  | none => .error (.badUsage (.cellCount s.axes.length))

/-- The number of cells that were sent. -/
def storedCount (s : CellSet) : Nat :=
  s.cells.size

/-- Adds the number of a cell within axes to `ordinal`, where a step along the first of the
axes counts `stride`. -/
def ordinalFrom (ordinal stride : Nat) : List (Axis × Nat) → Except Failure Nat
  | [] => .ok ordinal
  | (axis, coordinate) :: rest =>
    if coordinate < axis.length then
      ordinalFrom (ordinal + coordinate * stride) (stride * axis.length) rest
    else .error (.badUsage (.coordinate coordinate axis.name axis.length))

/-- The number of the cell with one coordinate for each axis. -/
def ordinalOf (s : CellSet) (coordinates : List Nat) : Except Failure Nat :=
  if coordinates.length = s.axes.length then do
    let _ ← s.cellCount
    ordinalFrom 0 1 (s.axes.zip coordinates)
  else .error (.badUsage (.coordinateCount s.axes.length coordinates.length))

/-- A number of a cell within the number of cells, or the refusal of any other number. -/
def checkOrdinal (s : CellSet) (ordinal : Nat) : Except Failure Unit := do
  let count ← s.cellCount
  if ordinal < count then return () else .error (.badUsage (.cellOrdinal ordinal count))

/-- The coordinates of a number along axes of given lengths. -/
def coordinatesFrom (ordinal : Nat) : List Nat → List Nat
  | [] => []
  | length :: rest => ordinal % length :: coordinatesFrom (ordinal / length) rest

/-- The coordinates of the cell with a number. -/
def coordinatesOf (s : CellSet) (ordinal : Nat) : Except Failure (List Nat) := do
  s.checkOrdinal ordinal
  return coordinatesFrom ordinal s.lengths

/-- The cell with a number. -/
def cellAt (s : CellSet) (ordinal : Nat) : Except Failure Cell := do
  s.checkOrdinal ordinal
  return ⟨ordinal, s.cells[ordinal]?⟩

/-- The cell with one coordinate for each axis. -/
def cell (s : CellSet) (coordinates : List Nat) : Except Failure Cell := do
  let ordinal ← s.ordinalOf coordinates
  s.cellAt ordinal

/-- The cell set with one more axis; the slicer is kept apart from the others. -/
def addAxis (s : CellSet) (axis : Axis) : CellSet :=
  if axis.isSlicer then { s with slicer := some axis } else { s with axes := s.axes ++ [axis] }

/-- The cell set with a cell stored under a number, in place of any other. -/
def addCell (s : CellSet) (ordinal : Nat) (cell : Element) : CellSet :=
  { s with cells := s.cells.insert ordinal cell }

end CellSet

/-- The handler that collects a multidimensional result in a cell set. -/
def collecting : CellHandler CellSet where
  onInfo info := modify fun s => { s with info := info }
  onAxis axis := modify (·.addAxis axis)
  onCell ordinal cell := modify (·.addCell ordinal cell)
  onFinish := pure ()

end OlapClient.Cube
