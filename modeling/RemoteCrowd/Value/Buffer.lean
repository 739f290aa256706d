import RemoteCrowd.Value.Codec
import RemoteCrowd.Wire.Buffer

/-!
Typed values in a buffer. What is wrong with a value is found before its tag is put.
-/

namespace RemoteCrowd

open Wire

/-- Append the tag and the value. -/
def appendValue (value : Value) : Writing Unit := do
  orThrow value.check
  put [value.type.tag]
  put value.unchecked

end RemoteCrowd
