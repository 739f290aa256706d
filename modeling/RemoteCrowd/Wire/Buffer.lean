import RemoteCrowd.Wire.Decoder
import RemoteCrowd.Wire.Encoder

/-!
Writing into a buffer, behind what it holds already. A text or a list of texts is checked as a
whole before its first byte is put, so that what is refused leaves nothing behind.
-/

namespace RemoteCrowd.Wire

/-- Writing that says what the buffer holds afterwards, also where it fails. -/
abbrev Writing := EStateM Error Bytes

/-- Put bytes behind what is there. -/
def put (bytes : Bytes) : Writing Unit := fun buffer => .ok () (buffer ++ bytes)

/-- Put a text that has been checked behind its length. -/
def putString (text : String) : Writing Unit := do
  put (writeInt32 (← orThrow (fieldLength (utf8Bytes text).length)))
  put (utf8Bytes text)

/-- Append an ASCII text behind its length. -/
def appendString (text : String) : Writing Unit := do
  orThrow (checkAscii text)
  putString text

/-- Append texts behind their number. -/
def appendStringList (texts : List String) : Writing Unit := do
  orThrow (forM texts checkAscii)
  put (writeInt32 (← orThrow (fieldLength texts.length)))
  forM texts putString

end RemoteCrowd.Wire
