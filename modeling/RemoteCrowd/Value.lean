import RemoteCrowd.Error

/-!
The typed values that travel between client and server. Each of the fourteen types has a
one-byte tag, and a value knows its type.
-/

namespace RemoteCrowd

/-- A point in the plane of the simulation. -/
structure Point where
  x : Double
  y : Double
deriving DecidableEq, Inhabited

def Point.origin : Point := ⟨.zero, .zero⟩

structure Color where
  red : UInt8
  green : UInt8
  blue : UInt8
  alpha : UInt8
deriving DecidableEq, Inhabited

/-- What a traffic light shows. -/
inductive LightPhase where
  | red
  | yellow
  | green
  | offBlink
  | off
deriving DecidableEq, Inhabited

namespace LightPhase

def all : List LightPhase := [red, yellow, green, offBlink, off]

def id : LightPhase → UInt8
  | red => 0x01
  | yellow => 0x02
  | green => 0x03
  | offBlink => 0x04
  | off => 0x05

def name : LightPhase → String
  | red => "Red"
  | yellow => "Yellow"
  | green => "Green"
  | offBlink => "OffBlink"
  | off => "Off"

def ofId (id : UInt8) : Except Error LightPhase :=
  match all.find? fun phase => phase.id == id with
  | some phase => .ok phase
  | none => .error (.framing (.unknownPhase id))

end LightPhase

/-- What a traffic light shows for one way across the junction. -/
structure SignalPhase where
  preceding : String
  succeeding : String
  light : LightPhase
deriving DecidableEq, Inhabited

/-- The types a value on the wire can have. -/
inductive ValueType where
  | lonLatPosition
  | position2D
  | lonLatAltPosition
  | position3D
  | roadMapPosition
  | polygon
  | ubyte
  | byte
  | integer
  | double
  | string
  | signalPhases
  | stringList
  | color
deriving DecidableEq, Inhabited

namespace ValueType

def all : List ValueType :=
  [lonLatPosition, position2D, lonLatAltPosition, position3D, roadMapPosition, polygon,
    ubyte, byte, integer, double, string, signalPhases, stringList, color]

/-- The byte that announces a value of this type. -/
def tag : ValueType → UInt8
  | lonLatPosition => 0x00
  | position2D => 0x01
  | lonLatAltPosition => 0x02
  | position3D => 0x03
  | roadMapPosition => 0x04
  | polygon => 0x06
  | ubyte => 0x07
  | byte => 0x08
  | integer => 0x09
  | double => 0x0B
  | string => 0x0C
  | signalPhases => 0x0D
  | stringList => 0x0E
  | color => 0x11

def name : ValueType → String
  | lonLatPosition => "LonLatPosition"
  | position2D => "Position2D"
  | lonLatAltPosition => "LonLatAltPosition"
  | position3D => "Position3D"
  | roadMapPosition => "RoadMapPosition"
  | polygon => "Polygon"
  | ubyte => "UByte"
  | byte => "Byte"
  | integer => "Integer"
  | double => "Double"
  | string => "String"
  | signalPhases => "TrafficLightPhaseList"
  | stringList => "StringList"
  | color => "Color"

/-- The name together with the tag. -/
def label (type : ValueType) : String :=
  type.name ++ "(" ++ Text.hexByte type.tag ++ ")"

def ofTag (tag : UInt8) : Except Error ValueType :=
  match all.find? fun type => type.tag == tag with
  | some type => .ok type
  | none => .error (.unknownType tag)

/-- The error for a value of another type than asked for. -/
def mismatch (expected got : ValueType) : Error :=
  .typeMismatch expected.label got.label

end ValueType

/-- A typed value. -/
inductive Value where
  | ubyte (value : UInt8)
  | byte (value : Int8)
  | integer (value : Int32)
  | double (value : Double)
  | string (text : String)
  | stringList (texts : List String)
  | position2D (point : Point)
  | position3D (x y z : Double)
  | roadMapPosition (road : String) (position : Double) (lane : UInt8)
  | lonLatPosition (lon lat : Double)
  | lonLatAltPosition (lon lat alt : Double)
  | polygon (points : List Point)
  | signalPhases (phases : List SignalPhase)
  | color (shade : Color)
deriving DecidableEq, Inhabited

namespace Value

def type : Value → ValueType
  | ubyte _ => .ubyte
  | byte _ => .byte
  | integer _ => .integer
  | double _ => .double
  | string _ => .string
  | stringList _ => .stringList
  | position2D _ => .position2D
  | position3D .. => .position3D
  | roadMapPosition .. => .roadMapPosition
  | lonLatPosition .. => .lonLatPosition
  | lonLatAltPosition .. => .lonLatAltPosition
  | polygon _ => .polygon
  | signalPhases _ => .signalPhases
  | color _ => .color

/-- Refuse a value of any other type. -/
def expect (value : Value) (expected : ValueType) : Except Error Unit :=
  if value.type = expected then .ok () else .error (ValueType.mismatch expected value.type)

def asDouble : Value → Except Error Double
  | double value => .ok value
  | other => .error (ValueType.mismatch .double other.type)

def asInteger : Value → Except Error Int32
  | integer value => .ok value
  | other => .error (ValueType.mismatch .integer other.type)

def asStringList : Value → Except Error (List String)
  | stringList texts => .ok texts
  | other => .error (ValueType.mismatch .stringList other.type)

def asPosition2D : Value → Except Error Point
  | position2D point => .ok point
  | other => .error (ValueType.mismatch .position2D other.type)

end Value

end RemoteCrowd
