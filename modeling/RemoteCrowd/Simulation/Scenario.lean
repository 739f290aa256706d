import RemoteCrowd.Files
import RemoteCrowd.Json.Record
import RemoteCrowd.Value

/-!
Scenarios: the area, the timing and the crowd that a run starts from. A scenario is read
from a JSON document and then checked; a scenario that passes has a positive step length
and finish time, and no two of its pedestrians share an id.
-/

namespace RemoteCrowd

/-- A rectangle with one corner at the origin. -/
structure Area where
  width : Double := .ofNat 10
  height : Double := .ofNat 10
deriving DecidableEq, Inhabited

/-- Whether a point lies in the area or on its border. -/
def Area.contains (area : Area) (point : Point) : Bool :=
  Double.zero.le point.x && point.x.le area.width &&
    (Double.zero.le point.y && point.y.le area.height)

structure Pedestrian where
  id : Int32
  position : Point
  velocity : Point
deriving DecidableEq, Inhabited

/-- What a run starts from. -/
structure Scenario where
  name : String
  /-- Simulated seconds for each step. -/
  stepLength : Double := .ofFloat 0.4
  /-- Simulated time at which the run is complete. -/
  finishTime : Double := .ofNat 500
  area : Area := {}
  pedestrians : List Pedestrian := []
deriving DecidableEq, Inhabited

namespace Scenario

open Json

/-- The value of a field, or the problem that it is absent. -/
private def required {α : Type} (absent : Nat → String → Problem) (position : Nat)
    (name : String) : Option α → Except Problem α
  | some value => .ok value
  | none => .error (absent position name)

private def pointShape : Shape (Option Double × Option Double) Point where
  name := "struct Point2D"
  draft := (none, none)
  fields := [
    ⟨"x", fun draft => draft.1.isSome, fun draft => return (some (← readDouble), draft.2)⟩,
    ⟨"y", fun draft => draft.2.isSome, fun draft => return (draft.1, some (← readDouble))⟩]
  complete absent draft := do
    let x ← required absent 0 "x" draft.1
    let y ← required absent 1 "y" draft.2
    return ⟨x, y⟩

private def areaShape : Shape (Option Double × Option Double) Area where
  name := "struct Topography"
  draft := (none, none)
  fields := [
    ⟨"width", fun draft => draft.1.isSome, fun draft => return (some (← readDouble), draft.2)⟩,
    ⟨"height", fun draft => draft.2.isSome,
      fun draft => return (draft.1, some (← readDouble))⟩]
  complete absent draft := do
    let width ← required absent 0 "width" draft.1
    let height ← required absent 1 "height" draft.2
    return ⟨width, height⟩

/-- The fields of a pedestrian that were read so far. -/
private structure PedestrianDraft where
  id : Option Int32 := none
  position : Option Point := none
  velocity : Option Point := none

/-- A pedestrian stands still unless a velocity is given. -/
private def pedestrianShape : Shape PedestrianDraft Pedestrian where
  name := "struct PedestrianSpec"
  draft := {}
  fields := [
    ⟨"id", fun draft => draft.id.isSome,
      fun draft => return { draft with id := some (← readInt32) }⟩,
    ⟨"position", fun draft => draft.position.isSome,
      fun draft => return { draft with position := some (← readRecord pointShape) }⟩,
    ⟨"velocity", fun draft => draft.velocity.isSome,
      fun draft => return { draft with velocity := some (← readRecord pointShape) }⟩]
  complete absent draft := do
    let id ← required absent 0 "id" draft.id
    let position ← required absent 1 "position" draft.position
    return ⟨id, position, draft.velocity.getD .origin⟩

/-- The fields of a scenario that were read so far. -/
private structure Draft where
  name : Option String := none
  stepLength : Option Double := none
  finishTime : Option Double := none
  area : Option Area := none
  pedestrians : Option (List Pedestrian) := none

/-- Only the name has to be given. -/
private def shape : Shape Draft Scenario where
  name := "struct Scenario"
  draft := {}
  fields := [
    ⟨"name", fun draft => draft.name.isSome,
      fun draft => return { draft with name := some (← readString) }⟩,
    ⟨"simTimeStepLength", fun draft => draft.stepLength.isSome,
      fun draft => return { draft with stepLength := some (← readDouble) }⟩,
    ⟨"finishTime", fun draft => draft.finishTime.isSome,
      fun draft => return { draft with finishTime := some (← readDouble) }⟩,
    ⟨"topography", fun draft => draft.area.isSome,
      fun draft => return { draft with area := some (← readRecord areaShape) }⟩,
    ⟨"pedestrians", fun draft => draft.pedestrians.isSome,
      fun draft =>
        return { draft with pedestrians := some (← readList (readRecord pedestrianShape)) }⟩]
  complete absent draft := do
    let name ← required absent 0 "name" draft.name
    let usual : Scenario := { name }
    return {
      name
      stepLength := draft.stepLength.getD usual.stepLength
      finishTime := draft.finishTime.getD usual.finishTime
      area := draft.area.getD usual.area
      pedestrians := draft.pedestrians.getD usual.pedestrians }

/-- The first id that came before in the list. -/
def firstDuplicate? (seen : List Int32) : List Int32 → Option Int32
  | [] => none
  | id :: rest => if id ∈ seen then some id else firstDuplicate? (id :: seen) rest

/-- A reader of descriptions of scenarios, which says what is wrong with a text that is none. -/
abbrev Reader := String → Except Fault Scenario

/-- The reader of descriptions in JSON. -/
def read : Reader := readDocument (readRecord shape)

/-- Refuse a scenario that cannot run. -/
def validate (scenario : Scenario) : Except Error Unit :=
  if !Double.zero.lt scenario.stepLength then
    .error (.load (.stepLength scenario.stepLength))
  else if !Double.zero.lt scenario.finishTime then
    .error (.load (.finishTime scenario.finishTime))
  else
    match firstDuplicate? [] (scenario.pedestrians.map Pedestrian.id) with
    | some id => .error (.load (.duplicateId id))
    | none => .ok ()

/-- What a text describes, not yet checked. -/
def described (reader : Reader) (text : String) : Except Error Scenario :=
  match reader text with
  | .ok scenario => .ok scenario
  | .error fault => .error (.load (.malformed fault))

/-- The scenario that a text describes. -/
def ofText (reader : Reader) (text : String) : Except Error Scenario := do
  let scenario ← described reader text
  scenario.validate
  return scenario

/-- The scenario that a file describes. -/
def ofFile (reader : Reader) (files : Files) (path : String) : Except Error Scenario :=
  match files.readText path with
  | .ok text => ofText reader text
  | .error fault => .error (.load (.unreadable path fault.message))

end Scenario

end RemoteCrowd
