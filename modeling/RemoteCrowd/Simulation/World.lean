import RemoteCrowd.Simulation.Crowd

/-!
The state of a running simulation between two steps: how many steps were made, the
simulated time, the area and the crowd. Persons are addressed by the decimal spelling of
their id, of which there are several.
-/

namespace RemoteCrowd

/-- The state of a simulation. -/
structure World where
  /-- Number of steps made so far. Behind the greatest number that it can hold, the counter
  starts from zero again. -/
  step : UInt64
  /-- Simulated seconds. -/
  time : Double
  area : Area
  crowd : Crowd
deriving DecidableEq, Inhabited

namespace World

/-- The state in which a scenario starts. -/
def ofScenario (scenario : Scenario) : World :=
  ⟨0, .zero, scenario.area, .ofList scenario.pedestrians⟩

/-- The time after a number of steps. -/
def timeAfter (stepLength : Double) (steps : UInt64) : Double :=
  .ofNat steps.toNat * stepLength

/-- Count a step and set the clock. -/
def tick (stepLength : Double) (world : World) : World :=
  { world with step := world.step + 1, time := timeAfter stepLength (world.step + 1) }

/-- The ids of all pedestrians, ascending. -/
def elementIds (world : World) : List String :=
  world.crowd.ids.map fun id => Text.integer id.toInt

/-- The id that an element name spells. -/
def parseId (element : String) : Except Error Int32 :=
  match Text.int32? element with
  | some id => .ok id
  | none => .error (.access (.invalidId element))

/-- The pedestrian that an element name spells the id of, with this id. -/
def locate (world : World) (element : String) : Except Error (Int32 × Pedestrian) := do
  let id ← parseId element
  match world.crowd.find? id with
  | some pedestrian => return (id, pedestrian)
  | none => throw (.access (.unknownId element))

/-- The pedestrian that an element name spells the id of. -/
def find (world : World) (element : String) : Except Error Pedestrian := do
  return (← world.locate element).2

/-- Change the pedestrian under an id. -/
def modifyPerson (id : Int32) (change : Pedestrian → Pedestrian) (world : World) : World :=
  { world with crowd := world.crowd.modify id change }

/-- Change the pedestrian that an element name spells the id of. -/
def modify (world : World) (element : String) (change : Pedestrian → Pedestrian) :
    Except Error World := do
  return world.modifyPerson (← world.locate element).1 change

/-- The corners of the area with the least and the greatest coordinates. -/
def boundingBox (world : World) : List Point :=
  [.origin, ⟨world.area.width, world.area.height⟩]

end World

end RemoteCrowd
