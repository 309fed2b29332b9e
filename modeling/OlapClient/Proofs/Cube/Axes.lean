import Mathlib.Data.List.Forall2
import Mathlib.Data.List.Induction
import Mathlib.Tactic.Common
import OlapClient.Proofs.Cube.Contents

/-!
# The axes of a result

The element of an axis has elements for its tuples, these have elements for their members, and those
for the properties of a member, all in document order.  `axes_read_faithfully` says that a result is
read into an empty cell set exactly when every number in it is a numeral of its format, and that the
axes of the cell set are then those that the elements describe, the slicer apart.
-/

namespace OlapClient.Cube

open OlapClient.Markup
open OlapClient.Number
open OlapClient.Protocol
open OlapClient.Text

/-! ### Properties of a member -/

/-- The last of some properties with a name, if there is one. -/
def lastNamed (name : String) (properties : List Element) : Option Element :=
  (properties.filter (·.tag.localName == name)).getLast?

/-- The text of the last of some properties with a name, empty if there is none. -/
def lastText (name : String) (properties : List Element) : String :=
  ((lastNamed name properties).map fun p => trimmed p.text).getD ""

/-- The properties that a member has a place of its own for. -/
def wellKnown : List String :=
  ["UName", "Caption", "LName", "LNum", "DisplayInfo"]

theorem mem_wellKnown_iff {name : String} :
  name ∈ wellKnown
    ↔ name = "UName" ∨ name = "Caption" ∨ name = "LName" ∨ name = "LNum" ∨ name = "DisplayInfo"
  := by simp [wellKnown]

/-- The other ones of some properties, with their texts. -/
def otherTexts (properties : List Element) : List (String × String) :=
  (properties.filter (·.tag.localName ∉ wellKnown)).map fun p => (p.tag.localName, trimmed p.text)

/-- A property is a numeral where its name asks for one. -/
structure SoundProperty (property : Element) : Prop where
  levelNumber : property.tag.localName = "LNum" → ∃ n, Gives .int32 property.text n
  displayInfo : property.tag.localName = "DisplayInfo" → ∃ n, Gives .nat32 property.text n

/-- A member of a hierarchy has what its properties say: the last one of each well-known name, and
all others in their order. -/
structure Member.MadeOf (m : Member) (hierarchy : String) (properties : List Element) : Prop where
  hierarchy : m.hierarchy = hierarchy
  uniqueName : m.uniqueName = lastText "UName" properties
  caption : m.caption = lastText "Caption" properties
  levelName : m.levelName = lastText "LName" properties
  levelNumber : Option.Rel (fun p n => Gives .int32 (Element.text p) n.val)
    (lastNamed "LNum" properties) m.levelNumber
  displayInfo : Option.Rel (fun p n => Gives .nat32 (Element.text p) n.val)
    (lastNamed "DisplayInfo" properties) m.displayInfo
  properties : m.properties = otherTexts properties

@[simp]
theorem lastNamed_concat (name : String) (properties : List Element) (p : Element) :
  lastNamed name (properties ++ [p])
    = if p.tag.localName = name then some p else lastNamed name properties
  := by
  rw [lastNamed, List.filter_append]
  split
  · rename_i named
    simp [named]
  · rename_i other
    simp [other, lastNamed]

@[simp]
theorem lastText_concat (name : String) (properties : List Element) (p : Element) :
  lastText name (properties ++ [p])
    = if p.tag.localName = name then trimmed p.text else lastText name properties
  := by
  rw [lastText, lastNamed_concat, lastText]
  split <;> rfl

@[simp]
theorem otherTexts_concat (properties : List Element) (p : Element) :
  otherTexts (properties ++ [p])
    = if p.tag.localName ∈ wellKnown then otherTexts properties
      else otherTexts properties ++ [(p.tag.localName, trimmed p.text)]
  := by
  rw [otherTexts, List.filter_append, List.map_append]
  split
  · rename_i known
    simp [known, otherTexts]
  · rename_i other
    simp [other, otherTexts]

/-- What a property adds to a member. -/
inductive Member.Adds (m : Member) (p : Element) : Member → Prop where
  | uniqueName (named : p.tag.localName = "UName") :
      m.Adds p { m with uniqueName := trimmed p.text }
  | caption (named : p.tag.localName = "Caption") :
      m.Adds p { m with caption := trimmed p.text }
  | levelName (named : p.tag.localName = "LName") :
      m.Adds p { m with levelName := trimmed p.text }
  | levelNumber (named : p.tag.localName = "LNum") {n : Bounded .int32}
      (gives : Gives .int32 p.text n.val) : m.Adds p { m with levelNumber := some n }
  | displayInfo (named : p.tag.localName = "DisplayInfo") {n : Bounded .nat32}
      (gives : Gives .nat32 p.text n.val) : m.Adds p { m with displayInfo := some n }
  | other (other : p.tag.localName ∉ wellKnown) :
      m.Adds p { m with properties := m.properties ++ [(p.tag.localName, trimmed p.text)] }

theorem adds_of_add {m m' : Member} {p : Element} (added : m.add p = .ok m') :
  m.Adds p m'
  := by
  simp only [Member.add] at added
  split at added
  · rename_i named
    cases added
    apply Member.Adds.uniqueName named
  · rename_i named
    cases added
    apply Member.Adds.caption named
  · rename_i named
    cases added
    apply Member.Adds.levelName named
  · rename_i named
    obtain ⟨n, read, rfl⟩ := map_eq_ok_iff.mp added
    apply Member.Adds.levelNumber named (readNumber_eq_ok_iff.mp read)
  · rename_i named
    obtain ⟨n, read, rfl⟩ := map_eq_ok_iff.mp added
    apply Member.Adds.displayInfo named (readNumber_eq_ok_iff.mp read)
  · rename_i uniqueName caption levelName levelNumber displayInfo
    cases added
    apply Member.Adds.other
    simp only [mem_wellKnown_iff, not_or]
    exact ⟨uniqueName, caption, levelName, levelNumber, displayInfo⟩

theorem exists_add_iff (m : Member) (p : Element) :
  (∃ m', m.add p = .ok m') ↔ SoundProperty p
  := by
  constructor
  · rintro ⟨m', added⟩
    constructor
    · intro named
      simp only [Member.add, named] at added
      obtain ⟨n, read, -⟩ := map_eq_ok_iff.mp added
      exact exists_readNumber_iff.mp ⟨n, read⟩
    · intro named
      simp only [Member.add, named] at added
      obtain ⟨n, read, -⟩ := map_eq_ok_iff.mp added
      exact exists_readNumber_iff.mp ⟨n, read⟩
  · intro sound
    simp only [Member.add]
    split
    · exact ⟨_, rfl⟩
    · exact ⟨_, rfl⟩
    · exact ⟨_, rfl⟩
    · rename_i named
      obtain ⟨n, read⟩ := exists_readNumber_iff.mpr (sound.levelNumber named)
      exact ⟨_, map_eq_ok_iff.mpr ⟨n, read, rfl⟩⟩
    · rename_i named
      obtain ⟨n, read⟩ := exists_readNumber_iff.mpr (sound.displayInfo named)
      exact ⟨_, map_eq_ok_iff.mpr ⟨n, read, rfl⟩⟩
    · exact ⟨_, rfl⟩

theorem Member.MadeOf.add
    {m m' : Member} {hierarchy : String} {properties : List Element} {p : Element}
    (made : m.MadeOf hierarchy properties) (added : m.add p = .ok m') :
  m'.MadeOf hierarchy (properties ++ [p])
  := by
  obtain ⟨hierarchy, uniqueName, caption, levelName, levelNumber, displayInfo, others⟩ := made
  -- a property is the last one of its own name, and leaves the last one of any other name
  cases adds_of_add added with
  | uniqueName named => constructor <;> simp [*, mem_wellKnown_iff]
  | caption named => constructor <;> simp [*, mem_wellKnown_iff]
  | levelName named => constructor <;> simp [*, mem_wellKnown_iff]
  | levelNumber named gives => constructor <;> simp [*, mem_wellKnown_iff]
  | displayInfo named gives => constructor <;> simp [*, mem_wellKnown_iff]
  | other other =>
    simp only [mem_wellKnown_iff, not_or] at other
    constructor <;> simp [*, mem_wellKnown_iff]

/-- The properties of a member can be read when each of them can. -/
theorem exists_readMember_iff {e : Element} :
  (∃ m, readMember e = .ok m) ↔ ∀ p ∈ e.children, SoundProperty p
  := exists_foldlM_eq_ok_iff exists_add_iff

theorem madeOf_of_foldlM
    {hierarchy : String} {properties : List Element} {m : Member}
    (read : properties.foldlM Member.add (.ofHierarchy hierarchy) = .ok m) :
  m.MadeOf hierarchy properties
  := by
  induction properties using List.reverseRecOn generalizing m with
  | nil =>
    cases read
    exact ⟨rfl, rfl, rfl, rfl, .none, .none, rfl⟩
  | append_singleton properties p ih =>
    rw [List.foldlM_append, bind_eq_ok_iff] at read
    obtain ⟨m', before, last⟩ := read
    rw [List.foldlM_cons, bind_eq_ok_iff] at last
    obtain ⟨m'', added, same⟩ := last
    cases same
    apply (ih before).add added

/-! ### Tuples and axes -/

/-- An element describes a member. -/
def DescribesMember (e : Element) (m : Member) : Prop :=
  m.MadeOf (e.valueOf "Hierarchy") e.children

/-- An element describes a tuple, member by member. -/
def DescribesTuple (e : Element) (t : Tuple) : Prop :=
  List.Forall₂ DescribesMember (e.findChildren datasetNs "Member") t.members

/-- An element describes an axis, tuple by tuple. -/
structure DescribesAxis (e : Element) (axis : Axis) : Prop where
  name : axis.name = e.valueOf "name"
  tuples : List.Forall₂ DescribesTuple (tupleElements e) axis.tuples

theorem describesTuple_of_readTuple {e : Element} {t : Tuple} (read : readTuple e = .ok t) :
  DescribesTuple e t
  := by
  obtain ⟨members, reads, rfl⟩ := map_eq_ok_iff.mp read
  apply (mapM_eq_ok_iff.mp reads).imp
  intro e m read
  apply madeOf_of_foldlM read

theorem describesAxis_of_readAxis {e : Element} {axis : Axis} (read : readAxis e = .ok axis) :
  DescribesAxis e axis
  := by
  obtain ⟨tuples, reads, rfl⟩ := map_eq_ok_iff.mp read
  constructor
  · rfl
  · apply (mapM_eq_ok_iff.mp reads).imp
    intro e t
    apply describesTuple_of_readTuple

theorem exists_readTuple_iff {e : Element} :
  (∃ t, readTuple e = .ok t)
    ↔ ∀ member ∈ e.findChildren datasetNs "Member", ∀ p ∈ member.children, SoundProperty p
  := by
  simp only [readTuple, map_eq_ok_iff, ← exists_readMember_iff, ← exists_mapM_eq_ok_iff]
  constructor
  · rintro ⟨t, members, reads, -⟩
    exact ⟨members, reads⟩
  · rintro ⟨members, reads⟩
    exact ⟨⟨members⟩, members, reads, rfl⟩

theorem exists_readAxis_iff {e : Element} :
  (∃ axis, readAxis e = .ok axis)
    ↔ ∀ tuple ∈ tupleElements e, ∀ member ∈ tuple.findChildren datasetNs "Member",
      ∀ p ∈ member.children, SoundProperty p
  := by
  simp only [readAxis, map_eq_ok_iff, ← exists_readTuple_iff, ← exists_mapM_eq_ok_iff]
  constructor
  · rintro ⟨axis, tuples, reads, -⟩
    exact ⟨tuples, reads⟩
  · rintro ⟨tuples, reads⟩
    exact ⟨⟨_, tuples⟩, tuples, reads, rfl⟩

theorem exists_numberedCell_iff {e : Element} :
  (∃ cell, numberedCell e = .ok cell) ↔ ∃ ordinal, HasOrdinal e ordinal
  := by
  simp only [numberedCell, map_eq_ok_iff, ← readOrdinal_eq_ok_iff]
  constructor
  · rintro ⟨cell, ordinal, read, -⟩
    exact ⟨ordinal, read⟩
  · rintro ⟨ordinal, read⟩
    exact ⟨(ordinal, e), ordinal, read, rfl⟩

/-! ### The axes of a cell set -/

/-- The members of a result, in document order over all its axes. -/
def memberElements (root : Element) : List Element :=
  (axisElements root).flatMap fun axis =>
    (tupleElements axis).flatMap (·.findChildren datasetNs "Member")

/-- Every number of a result is a numeral of its format. -/
structure WellNumbered (root : Element) : Prop where
  properties : ∀ member ∈ memberElements root, ∀ p ∈ member.children, SoundProperty p
  ordinals : ∀ cell ∈ cellElements root, ∃ ordinal, HasOrdinal cell ordinal

/-- An element is named as the slicer is. -/
def namesSlicer (e : Element) : Bool :=
  e.valueOf "name" == slicerName

theorem reads_iff_wellNumbered
    {payload root : Element} (found : payload.findChild? datasetNs "root" = some root) :
  (∃ s, (readCellSet collecting payload).outcome .empty = (.ok (), s)) ↔ WellNumbered root
  := by
  have members : (∀ member ∈ memberElements root, ∀ p ∈ member.children, SoundProperty p)
      ↔ ∃ axes, (axisElements root).mapM readAxis = .ok axes := by
    rw [exists_mapM_eq_ok_iff]
    simp only [memberElements, List.forall_mem_flatMap, exists_readAxis_iff]
  have cells : (∀ cell ∈ cellElements root, ∃ ordinal, HasOrdinal cell ordinal)
      ↔ ∃ cells, (cellElements root).mapM numberedCell = .ok cells := by
    rw [exists_mapM_eq_ok_iff]
    simp only [exists_numberedCell_iff]
  constructor
  · rintro ⟨s, reads⟩
    obtain ⟨axes, numbered, readAxes, readCells, -⟩ := (outcome_collecting_iff found).mp reads
    exact ⟨members.mpr ⟨axes, readAxes⟩, cells.mpr ⟨numbered, readCells⟩⟩
  · rintro ⟨properties, ordinals⟩
    obtain ⟨axes, readAxes⟩ := members.mp properties
    obtain ⟨numbered, readCells⟩ := cells.mp ordinals
    exact ⟨_, (outcome_collecting_iff found).mpr ⟨axes, numbered, readAxes, readCells, rfl⟩⟩

theorem rel_getLast?
    {α β : Type} {R : α → β → Prop} {as : List α} {bs : List β} (h : List.Forall₂ R as bs) :
  Option.Rel R as.getLast? bs.getLast?
  := by
  rw [List.getLast?_eq_head?_reverse, List.getLast?_eq_head?_reverse]
  have reversed := List.rel_reverse h
  generalize as.reverse = as', bs.reverse = bs' at reversed ⊢
  cases reversed with
  | nil => apply Option.Rel.none
  | cons first _ => exact Option.Rel.some first

/-- The axes of a cell set that was read are those of the result that are not named as the slicer
is, and its slicer is the last one that is. -/
theorem describesAxis_of_outcome
    {payload root : Element} (found : payload.findChild? datasetNs "root" = some root) {s : CellSet}
    (reads : (readCellSet collecting payload).outcome .empty = (.ok (), s)) :
  List.Forall₂ DescribesAxis ((axisElements root).filter (!namesSlicer ·)) s.axes
    ∧ Option.Rel DescribesAxis ((axisElements root).filter namesSlicer).getLast? s.slicer
  := by
  obtain ⟨axes, numbered, readAxes, -, rfl⟩ := (outcome_collecting_iff found).mp reads
  have described : List.Forall₂ DescribesAxis (axisElements root) axes :=
    (mapM_eq_ok_iff.mp readAxes).imp fun _ _ => describesAxis_of_readAxis
  have slicer {e : Element} {axis : Axis} (h : DescribesAxis e axis) :
      namesSlicer e = axis.isSlicer := by
    rw [namesSlicer, Axis.isSlicer, h.name]
  constructor
  · apply List.rel_filter _ described
    intro e axis h
    simp only [slicer h]
  · have slicers : List.Forall₂ DescribesAxis ((axisElements root).filter namesSlicer)
        (axes.filter (·.isSlicer)) := by
      apply List.rel_filter _ described
      intro e axis h
      simp only [slicer h]
    have last := rel_getLast? slicers
    simpa [CellSet.extended, CellSet.announced] using last

/-- A result is read into an empty cell set when its numbers are numerals, and is malformed
otherwise.  The cell set then has the axes of the result in document order, with their tuples, the
members of these and the properties of those, and the last slicer apart from them. -/
theorem axes_read_faithfully
    {payload root : Element} (found : payload.findChild? datasetNs "root" = some root) :
  ((∃ s, (readCellSet collecting payload).outcome .empty = (.ok (), s)) ↔ WellNumbered root)
    ∧ (¬ WellNumbered root →
        ∃ defect s,
          (readCellSet collecting payload).outcome .empty = (.error (.malformed defect), s))
    ∧ ∀ s, (readCellSet collecting payload).outcome .empty = (.ok (), s) →
        List.Forall₂ DescribesAxis ((axisElements root).filter (!namesSlicer ·)) s.axes
          ∧ Option.Rel DescribesAxis ((axisElements root).filter namesSlicer).getLast? s.slicer
  := by
  have iff := reads_iff_wellNumbered found
  refine ⟨iff, ?_, ?_⟩
  · intro unsound
    rcases ended : (readCellSet collecting payload).outcome .empty with ⟨failure | ⟨⟩, s⟩
    · obtain ⟨defect, rfl⟩ := isMalformed_of_ending (by rw [← outcome_eq_ending, ended])
      exact ⟨defect, s, rfl⟩
    · exact absurd (iff.mp ⟨s, ended⟩) unsound
  · intro s reads
    apply describesAxis_of_outcome found reads

/-- A property with a text. -/
def property (name text : String) : Element :=
  ⟨⟨name, some datasetNs, name, []⟩, .ofNodes [.text text]⟩

/-- An axis with one position, and there a member with given properties. -/
def memberAxis (name : String) (properties : List Element) : Element :=
  part "Axis" [⟨"name", none, "name", name⟩] [part "Tuples" [] [part "Tuple" []
    [part "Member" [⟨"Hierarchy", none, "Hierarchy", "[Time]"⟩] properties]]]

/-- An axis on which a member says twice which level it is of. -/
def yearElement : Element :=
  memberAxis "Axis0" [property "LNum" " +1 ", property "YEAR" " 1997 ", property "LNum" "02"]

/-- The axis of `yearElement`. -/
def yearAxis : Axis :=
  ⟨"Axis0", [⟨[⟨"[Time]", "", "", "", some ⟨2, by decide⟩, none, [("YEAR", "1997")]⟩]⟩]⟩

/-- A slicer between two axes. -/
def slicedRoot : Element :=
  part "root" [] [part "Axes" [] [yearElement, memberAxis slicerName [], yearElement]]

theorem axes_read_faithfully_sliced :
  (part "return" [] [slicedRoot]).findChild? datasetNs "root" = some slicedRoot
    ∧ ∃ s, (readCellSet collecting (part "return" [] [slicedRoot])).outcome .empty = (.ok (), s)
      ∧ List.Forall₂ DescribesAxis [yearElement, yearElement] s.axes
      ∧ Option.Rel DescribesAxis (some (memberAxis slicerName [])) s.slicer
      ∧ s.axes = [yearAxis, yearAxis]
  := by
  have found : (part "return" [] [slicedRoot]).findChild? datasetNs "root" = some slicedRoot := rfl
  have reads := (outcome_collecting_iff found).mpr
    ⟨[yearAxis, ⟨slicerName, [⟨[.ofHierarchy "[Time]"]⟩]⟩, yearAxis], [], by decide, rfl, rfl⟩
  obtain ⟨-, -, describes⟩ := axes_read_faithfully found
  obtain ⟨axes, slicer⟩ := describes _ reads
  exact ⟨found, _, reads, axes, slicer, rfl⟩

end OlapClient.Cube
