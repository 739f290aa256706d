import RemoteCrowd.Command.Variable
import RemoteCrowd.Simulation.World

/-!
What can be asked of a world, and what can be changed in it, by variable. The vehicles that
the protocol asks about do not exist here, so there are none of them in any list or count.
-/

namespace RemoteCrowd.World

/-- The value of a variable of the simulation. -/
def simulationValue (variableId : SimulationVariable) (world : World) : Value :=
  match variableId with
  | .time => .double world.time
  | .loadedCount | .departedCount | .startTeleportCount | .endTeleportCount => .integer 0
  | .loadedIds | .departedIds | .startTeleportIds | .endTeleportIds | .startParkingIds
  | .stopParkingIds => .stringList []
  | .boundingBox => .polygon world.boundingBox

/-- The value of a variable of the persons, or of one of them. -/
def personValue (variableId : PersonVariable) (element : String) (world : World) :
    Except Error Value :=
  match variableId with
  | .idList => .ok (.stringList world.elementIds)
  | .count => .ok (.integer (Int32.ofNat world.crowd.size))
  | .speed => do return .double (← world.find element).speed
  | .position => do return .position2D (← world.find element).position
  | .position3D => do
    let position := (← world.find element).position
    return .position3D position.x position.y .zero

/-- The change of a person that gives a variable a value. Variables that cannot be written
change nothing. -/
def personChange (variableId : PersonVariable) (value : Value) :
    Except Error (Pedestrian → Pedestrian) :=
  match variableId with
  | .speed => do return .setSpeed (← value.asDouble)
  | .position => do return .setPosition (← value.asPosition2D)
  | _ => .ok id

/-- What is done to a world. Where it fails, the world is left as far as it got. -/
abbrev Handling := EStateM Error World

/-- Ask a world for something. -/
def ask {α : Type} (question : World → Except Error α) : Handling α := do
  match question (← get) with
  | .ok answer => return answer
  | .error cause => throw cause

/-- Give a variable of one person a value. -/
def setPersonValue (variableId : PersonVariable) (element : String) (value : Value) :
    Handling Unit := do
  let (id, _) ← ask fun world => world.locate element
  let change ← ask fun _ => personChange variableId value
  modifyThe World (modifyPerson id change)

end RemoteCrowd.World
