import OlapClient.Number.Bounded
import OlapClient.Protocol.Vocabulary

/-!
# Axes of a multidimensional result

A multidimensional result lays its cells out along axes.  An `Axis` is a sequence of tuples,
a `Tuple` a sequence of members, and a `Member` names one member of a hierarchy with its
properties.  `CubeInfo` says which cube was queried and which hierarchies stand on which
axis.
-/

namespace OlapClient.Cube

open OlapClient.Number
open OlapClient.Protocol

/-- An axis as the result announces it: its name and the hierarchies laid out on it. -/
structure AxisInfo where
  name : String
  hierarchies : List String
  deriving DecidableEq, Repr

/-- What a result announces about its cube. -/
structure CubeInfo where
  cubeName : Option String
  axes : List AxisInfo
  deriving DecidableEq, Repr

/-- Nothing announced. -/
def CubeInfo.empty : CubeInfo :=
  ⟨none, []⟩

/-- A member of a hierarchy at a place of an axis. -/
structure Member where
  hierarchy : String
  uniqueName : String
  caption : String
  levelName : String
  levelNumber : Option (Bounded .int32)
  displayInfo : Option (Bounded .nat32)
  /-- Any other property with its text, in document order. -/
  properties : List (String × String)
  deriving DecidableEq, Repr

/-- A member of which only the hierarchy is known. -/
def Member.ofHierarchy (hierarchy : String) : Member :=
  ⟨hierarchy, "", "", "", none, none, []⟩

/-- The text of the first other property with a name. -/
def Member.property? (m : Member) (name : String) : Option String :=
  m.properties.lookup name

/-- The members at one position of an axis. -/
structure Tuple where
  members : List Member
  deriving DecidableEq, Repr

/-- An axis of a result. -/
structure Axis where
  name : String
  tuples : List Tuple
  deriving DecidableEq, Repr

/-- The number of positions of an axis. -/
def Axis.length (a : Axis) : Nat :=
  a.tuples.length

/-- The axis holds the members that the query is restricted to. -/
def Axis.isSlicer (a : Axis) : Bool :=
  a.name == slicerName

end OlapClient.Cube
