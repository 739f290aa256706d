import RemoteCrowd.Wire.Decoder
import RemoteCrowd.Wire.Encoder

/-!
Commands in frames. A frame is a length field and a body of an opcode and its payload. The
field counts the whole frame: in one byte up to 255, and in four bytes behind a zero byte
above that. Splitting a byte string gives the frames up to the first fault.
-/

namespace RemoteCrowd.Wire

/-- The greatest frame length that one byte can hold. -/
def maxShortFrame : Nat := 255

/-- The size of an extended length field: the zero byte and the length itself. -/
def extendedField : Nat := 5

/-- A command that has been delimited and not yet read. -/
structure Frame where
  opcode : UInt8
  payload : Bytes
deriving DecidableEq, Inhabited

/-- Opcode and payload, as they stand in the frame. -/
def Frame.body (frame : Frame) : Bytes := frame.opcode :: frame.payload

/-- The length field of a frame whose body and one-byte field take `length` bytes. A
longer field counts its four extra bytes too. -/
def writeFrameLength (length : Nat) : Except Error Bytes :=
  if length = 0 then .error (.framing .uncountedLength)
  else if length ≤ maxShortFrame then .ok [UInt8.ofNat length]
  else do return 0 :: (← writeLength (length + 4))

/-- A body behind its length field. -/
def writeFrame (body : Bytes) : Except Error Bytes := do
  return (← writeFrameLength (body.length + 1)) ++ body

/-- The size of the frame around a body of the given length. -/
def frameSize (bodyLength : Nat) : Nat :=
  if bodyLength + 1 ≤ maxShortFrame then bodyLength + 1 else bodyLength + extendedField

/-- Read a length field and give the length of the body behind it. -/
def readFrameLength : Decoder Nat := do
  let short ← readUInt8
  if short ≠ 0 then return short.toNat - 1
  else
    let extended ← readInt32
    if extended < 5 then throw (.framing (.extendedLength extended))
    else return extended.toInt.toNat - extendedField

/-- The body of the next frame. -/
def readFrameBody : Decoder Bytes := do
  take (← readFrameLength) "framed command"

/-- The opcode and payload in a body; an empty body has no opcode. -/
def Frame.ofBody : Bytes → Except Error Frame
  | [] => .error (.framing .missingOpcode)
  | opcode :: payload => .ok ⟨opcode, payload⟩

/-- The next frame. -/
def readFrame : Decoder Frame := do
  orThrow (Frame.ofBody (← readFrameBody))

private theorem readFrameLength_shrinks {bytes rest : Bytes} {length : Nat}
    (read : readFrameLength.run bytes = .ok length rest) : rest.length < bytes.length := by
  obtain ⟨short, mid, first, next⟩ := run_bind_eq_ok.mp read
  have split := run_readUInt8Named_eq_ok.mp first
  subst split
  have shorter : rest.length ≤ mid.length := by
    split at next
    · obtain ⟨_, rfl⟩ := EStateM.Result.ok.inj next
      exact Nat.le_refl _
    · obtain ⟨extended, tail, word, last⟩ := run_bind_eq_ok.mp next
      obtain ⟨field, after, taken, made⟩ := run_bind_eq_ok.mp word
      obtain ⟨rfl, _⟩ := run_take_eq_ok.mp taken
      obtain ⟨_, rfl⟩ := EStateM.Result.ok.inj made
      split at last
      · simp at last
      · obtain ⟨_, rfl⟩ := EStateM.Result.ok.inj last
        simp
  simp only [List.length_cons]
  omega

/-- A frame takes at least one byte. -/
theorem readFrame_shrinks {bytes rest : Bytes} {frame : Frame}
    (read : readFrame.run bytes = .ok frame rest) : rest.length < bytes.length := by
  obtain ⟨body, mid, first, last⟩ := run_bind_eq_ok.mp read
  obtain ⟨length, tail, field, taken⟩ := run_bind_eq_ok.mp first
  have shorter := readFrameLength_shrinks field
  obtain ⟨rfl, _⟩ := run_take_eq_ok.mp taken
  obtain ⟨_, rfl⟩ := run_orThrow_eq_ok.mp last
  simp only [List.length_append] at shorter
  omega

/-- The frames of a byte string, and the fault that ended the splitting, if any. Behind a
fault nothing can be delimited any more. -/
def splitFrames (bytes : Bytes) : List Frame × Option Error :=
  if bytes.isEmpty then ([], none)
  else
    match _read : readFrame.run bytes with
    | .error cause _ => ([], some cause)
    | .ok frame rest =>
      let later := splitFrames rest
      (frame :: later.1, later.2)
termination_by bytes.length
decreasing_by exact readFrame_shrinks (by assumption)

/-- All frames of a byte string that holds nothing else. -/
def readFrames (bytes : Bytes) : Except Error (List Frame) :=
  match splitFrames bytes with
  | (frames, none) => .ok frames
  | (_, some cause) => .error cause

/-- A byte string that is split on demand: what has not been read yet, and whether a fault
was found. -/
structure Splitting where
  rest : Bytes
  failed : Bool := false
deriving DecidableEq, Inhabited

/-- Ask for the next frame. A fault is told once, in place of a frame. Behind it, as behind
the last byte, there is nothing. -/
def Splitting.next (splitting : Splitting) : Option (Except Error Frame) × Splitting :=
  if splitting.failed || splitting.rest.isEmpty then (none, splitting)
  else
    match readFrame.run splitting.rest with
    | .ok frame rest => (some (.ok frame), { splitting with rest })
    | .error cause rest => (some (.error cause), ⟨rest, true⟩)

/-- What the call with the given number gets, counted from zero. -/
def Splitting.answer : Nat → Splitting → Option (Except Error Frame)
  | 0, splitting => splitting.next.1
  | call + 1, splitting => answer call splitting.next.2

/-- The bytes are one frame around the body: in the short form where the frame has at most
255 bytes, or in the extended form, which any length may take. -/
def IsFrame (bytes body : Bytes) : Prop :=
  (body.length + 1 ≤ maxShortFrame ∧ bytes = UInt8.ofNat (body.length + 1) :: body) ∨
    (body.length + extendedField ≤ maxLength ∧
      bytes = 0 :: bigEndian 4 (body.length + extendedField) ++ body)

end RemoteCrowd.Wire
