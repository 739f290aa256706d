import RemoteCrowd.Value

/-!
The variables that can be read, and in part changed, of the two supported domains: the
simulation as a whole and single persons.
-/

namespace RemoteCrowd

/-- What can be asked about the simulation. -/
inductive SimulationVariable where
  | time
  | loadedCount
  | loadedIds
  | departedCount
  | departedIds
  | startTeleportCount
  | startTeleportIds
  | endTeleportCount
  | endTeleportIds
  | startParkingIds
  | stopParkingIds
  | boundingBox
deriving DecidableEq, Inhabited

namespace SimulationVariable

def all : List SimulationVariable :=
  [time, loadedCount, loadedIds, departedCount, departedIds, startTeleportCount,
    startTeleportIds, endTeleportCount, endTeleportIds, startParkingIds, stopParkingIds,
    boundingBox]

def id : SimulationVariable → UInt8
  | time => 0x66
  | loadedCount => 0x71
  | loadedIds => 0x72
  | departedCount => 0x73
  | departedIds => 0x74
  | startTeleportCount => 0x75
  | startTeleportIds => 0x76
  | endTeleportCount => 0x77
  | endTeleportIds => 0x78
  | startParkingIds => 0x6d
  | stopParkingIds => 0x6f
  | boundingBox => 0x7c

/-- The type of the variable's value. -/
def type : SimulationVariable → ValueType
  | time => .double
  | loadedCount | departedCount | startTeleportCount | endTeleportCount => .integer
  | loadedIds | departedIds | startTeleportIds | endTeleportIds | startParkingIds
  | stopParkingIds => .stringList
  | boundingBox => .polygon

def ofId (id : UInt8) : Except Error SimulationVariable :=
  match all.find? fun candidate => candidate.id == id with
  | some found => .ok found
  | none => .error (.unknownVariable "simulation" id)

end SimulationVariable

/-- What can be asked about a person. -/
inductive PersonVariable where
  | idList
  | count
  | speed
  | position
  | position3D
deriving DecidableEq, Inhabited

namespace PersonVariable

def all : List PersonVariable := [idList, count, speed, position, position3D]

def id : PersonVariable → UInt8
  | idList => 0x00
  | count => 0x01
  | speed => 0x40
  | position => 0x42
  | position3D => 0x39

/-- The type of the variable's value. -/
def type : PersonVariable → ValueType
  | idList => .stringList
  | count => .integer
  | speed => .double
  | position => .position2D
  | position3D => .position3D

/-- Whether a command may change the variable. -/
def writable : PersonVariable → Bool
  | speed | position => true
  | _ => false

def ofId (id : UInt8) : Except Error PersonVariable :=
  match all.find? fun candidate => candidate.id == id with
  | some found => .ok found
  | none => .error (.unknownVariable "person" id)

end PersonVariable

end RemoteCrowd
