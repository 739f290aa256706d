/-!
The object domains that commands address. The opcodes of a domain share its offset as
their low half byte.
-/

namespace RemoteCrowd

/-- A kind of object in the simulation. -/
inductive Domain where
  | inductionLoop
  | multiEntryExitDetector
  | trafficLight
  | lane
  | vehicle
  | vehicleType
  | route
  | poi
  | polygon
  | junction
  | edge
  | simulation
  | gui
  | laneAreaDetector
  | person
deriving DecidableEq, Inhabited

namespace Domain

/-- Every domain, by ascending offset. -/
def all : List Domain :=
  [inductionLoop, multiEntryExitDetector, trafficLight, lane, vehicle, vehicleType, route,
    poi, polygon, junction, edge, simulation, gui, laneAreaDetector, person]

def offset : Domain → UInt8
  | inductionLoop => 0x0
  | multiEntryExitDetector => 0x1
  | trafficLight => 0x2
  | lane => 0x3
  | vehicle => 0x4
  | vehicleType => 0x5
  | route => 0x6
  | poi => 0x7
  | polygon => 0x8
  | junction => 0x9
  | edge => 0xa
  | simulation => 0xb
  | gui => 0xc
  | laneAreaDetector => 0xd
  | person => 0xe

/-- Whether the protocol has a command to change objects of the domain. -/
def settable : Domain → Bool
  | inductionLoop | multiEntryExitDetector | junction | laneAreaDetector => false
  | _ => true

/-- Whether the protocol has a command to subscribe to objects of the domain. -/
def subscribable (domain : Domain) : Bool :=
  domain.offset ≤ simulation.offset

def name : Domain → String
  | inductionLoop => "induction loop"
  | multiEntryExitDetector => "multi entry/exit detector"
  | trafficLight => "traffic light"
  | lane => "lane"
  | vehicle => "vehicle"
  | vehicleType => "vehicle type"
  | route => "route"
  | poi => "poi"
  | polygon => "polygon"
  | junction => "junction"
  | edge => "edge"
  | simulation => "simulation"
  | gui => "gui"
  | laneAreaDetector => "lane area detector"
  | person => "person"

theorem mem_all (domain : Domain) : domain ∈ all := by
  cases domain <;> decide

end Domain

end RemoteCrowd
