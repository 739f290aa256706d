import RemoteCrowd.Value
import RemoteCrowd.Wire.Decoder
import RemoteCrowd.Wire.Encoder

/-!
The encoding of typed values: a tag, then the value itself. Polygons and lists of signal
phases count their elements in one byte, texts and lists of texts in four. A value is written in
two passes. The first finds what is wrong with it, at every depth, and the second writes the bytes
and checks nothing any more. The length of a text is not among the things that are checked.
-/

namespace RemoteCrowd

open Wire

/-- The most elements that a one-byte count can announce. -/
def maxShortList : Nat := 255

/-- Refuse more elements than a one-byte count can announce. -/
def checkCount (what : String) (count : Nat) : Except Error Unit :=
  if count ≤ maxShortList then .ok () else .error (.capacity what count maxShortList)

/-- Refuse a phase that cannot be written. -/
def SignalPhase.check (phase : SignalPhase) : Except Error Unit := do
  checkAscii phase.preceding
  checkAscii phase.succeeding

/-- Refuse a value that cannot be written. -/
def Value.check : Value → Except Error Unit
  | string text => checkAscii text
  | stringList texts => do
    discard (fieldLength texts.length)
    forM texts checkAscii
  | roadMapPosition road _ _ => checkAscii road
  | polygon points => checkCount "polygon" points.length
  | signalPhases phases => do
    checkCount "traffic light phase list" phases.length
    forM phases SignalPhase.check
  | _ => .ok ()

def Point.write (point : Point) : Bytes :=
  writeDouble point.x ++ writeDouble point.y

def SignalPhase.unchecked (phase : SignalPhase) : Bytes :=
  uncheckedString phase.preceding ++ uncheckedString phase.succeeding ++ [phase.light.id]

/-- The bytes of a value without its tag. Lengths and counts that are too great lose their
upper digits. -/
def Value.unchecked : Value → Bytes
  | ubyte value => [value]
  | byte value => writeInt8 value
  | integer value => writeInt32 value
  | double value => writeDouble value
  | string text => uncheckedString text
  | stringList texts => writeInt32 (Int32.ofNat texts.length) ++ texts.flatMap uncheckedString
  | position2D point => point.write
  | position3D x y z => writeDouble x ++ writeDouble y ++ writeDouble z
  | roadMapPosition road position lane => uncheckedString road ++ writeDouble position ++ [lane]
  | lonLatPosition lon lat => writeDouble lon ++ writeDouble lat
  | lonLatAltPosition lon lat alt => writeDouble lon ++ writeDouble lat ++ writeDouble alt
  | polygon points => UInt8.ofNat points.length :: points.flatMap Point.write
  | signalPhases phases =>
    UInt8.ofNat phases.length :: phases.flatMap SignalPhase.unchecked
  | color shade => [shade.red, shade.green, shade.blue, shade.alpha]

/-- The tag and the value. -/
def Value.write (value : Value) : Except Error Bytes := do
  value.check
  return value.type.tag :: value.unchecked

def readPoint : Decoder Point := do
  let x ← readDouble
  let y ← readDouble
  return ⟨x, y⟩

def readSignalPhase : Decoder SignalPhase := do
  let preceding ← readString
  let succeeding ← readString
  let light ← orThrow (LightPhase.ofId (← readUInt8))
  return ⟨preceding, succeeding, light⟩

def readColor : Decoder Color := do
  need 4 "color"
  let red ← readUInt8
  let green ← readUInt8
  let blue ← readUInt8
  let alpha ← readUInt8
  return ⟨red, green, blue, alpha⟩

/-- A value of a known type, without its tag. -/
def readUntagged : ValueType → Decoder Value
  | .ubyte => return .ubyte (← readUInt8)
  | .byte => return .byte (← readInt8)
  | .integer => return .integer (← readInt32)
  | .double => return .double (← readDouble)
  | .string => return .string (← readString)
  | .stringList => return .stringList (← readStringList)
  | .position2D => return .position2D (← readPoint)
  | .position3D => do
    let x ← readDouble
    let y ← readDouble
    let z ← readDouble
    return .position3D x y z
  | .roadMapPosition => do
    let road ← readString
    let position ← readDouble
    let lane ← readUInt8
    return .roadMapPosition road position lane
  | .lonLatPosition => do
    let lon ← readDouble
    let lat ← readDouble
    return .lonLatPosition lon lat
  | .lonLatAltPosition => do
    let lon ← readDouble
    let lat ← readDouble
    let alt ← readDouble
    return .lonLatAltPosition lon lat alt
  | .polygon => do
    let count ← readUInt8
    need (count.toNat * 16) "polygon"
    return .polygon (← readMany readPoint count.toNat)
  | .signalPhases => do
    let count ← readUInt8
    return .signalPhases (← readMany readSignalPhase count.toNat)
  | .color => return .color (← readColor)

/-- The type that the next byte announces. -/
def readType : Decoder ValueType := do
  orThrow (ValueType.ofTag (← readUInt8))

/-- A tag and the value it announces. -/
def readTagged : Decoder Value := do
  readUntagged (← readType)

/-- A tagged value of the expected type. The value is not read if its tag is another. -/
def readTaggedAs (expected : ValueType) : Decoder Value := do
  let type ← readType
  if type = expected then readUntagged type
  else throw (ValueType.mismatch expected type)

end RemoteCrowd
