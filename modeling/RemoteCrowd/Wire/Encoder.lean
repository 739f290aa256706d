import RemoteCrowd.Bytes
import RemoteCrowd.Error

/-!
Values as bytes. Numbers are big-endian. Text must be ASCII, and lengths must fit a signed
32-bit field; what does not is refused, and nothing is written. Text within a typed value is
checked elsewhere.
-/

namespace RemoteCrowd.Wire

def writeInt8 (value : Int8) : Bytes := [value.toUInt8]

def writeInt32 (value : Int32) : Bytes := bigEndian 4 value.toUInt32.toNat

def writeDouble (value : Double) : Bytes := bigEndian 8 value.bits.toNat

/-- The greatest length that a length field can hold. -/
def maxLength : Nat := 2147483647

/-- A length in its four-byte field. -/
def writeLength (length : Nat) : Except Error Bytes :=
  if length ≤ maxLength then .ok (bigEndian 4 length)
  else .error (.capacity "length field" length maxLength)

/-- A length as the number that its field holds. -/
def fieldLength (length : Nat) : Except Error Int32 :=
  if length ≤ maxLength then .ok (Int32.ofNat length)
  else .error (.capacity "length field" length maxLength)

/-- Refuse text that is not ASCII. -/
def checkAscii (text : String) : Except Error Unit :=
  if Text.isAscii text then .ok () else .error (.encoding (.notAscii text))

/-- A text as it is kept in memory. -/
def utf8Bytes (text : String) : Bytes := text.toList.flatMap String.utf8EncodeChar

/-- The bytes of a text behind its length. A length that is too great loses its upper digits. -/
def uncheckedString (text : String) : Bytes :=
  writeInt32 (Int32.ofNat (utf8Bytes text).length) ++ utf8Bytes text

/-- The bytes of an ASCII text. -/
def asciiBytes (text : String) : Bytes :=
  text.toList.map fun c => UInt8.ofNat c.toNat

/-- An ASCII text behind its length. -/
def writeString (text : String) : Except Error Bytes :=
  if Text.isAscii text then do
    return (← writeLength text.length) ++ asciiBytes text
  else .error (.encoding (.notAscii text))

/-- Write items one after another. -/
def writeMany {α : Type} (item : α → Except Error Bytes) : List α → Except Error Bytes
  | [] => .ok []
  | first :: rest => do
    let front ← item first
    let back ← writeMany item rest
    return front ++ back

/-- Texts behind their number. -/
def writeStringList (texts : List String) : Except Error Bytes := do
  let items ← writeMany writeString texts
  return (← writeLength texts.length) ++ items

end RemoteCrowd.Wire
