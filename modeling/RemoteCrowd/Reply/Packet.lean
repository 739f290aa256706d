import RemoteCrowd.Reply.Basic
import RemoteCrowd.Value.Codec
import RemoteCrowd.Wire.Frame

/-!
Outgoing packets. A packet collects frames behind a length field that counts the whole
packet. The field is a placeholder until the length is known, which is when the packet is
finalized or sent. A finalized packet takes no more frames. A reply can take two frames, which
are appended one after the other.
-/

namespace RemoteCrowd

open Wire

/-- The size of the length field in front of a packet. -/
def packetField : Nat := 4

/-- A packet under construction: its length field, its frames so far, and whether more may
follow. -/
structure Packet where
  /-- The number in the length field. It says nothing as long as it is a placeholder. -/
  lengthField : Int32 := -1
  frames : Bytes := []
  placeholder : Bool := true
  finalized : Bool := false
deriving DecidableEq, Inhabited

/-- The number in the length field of a packet with the given total length. -/
def packetLength (total : Nat) : Except Error Int32 :=
  if total ≤ maxLength then .ok (Int32.ofNat total)
  else .error (.capacity "packet" total maxLength)

/-- The body of a status: opcode, code and description. -/
def Status.write (status : Status) : Except Error Bytes := do
  return status.opcode :: status.code.id :: (← writeString status.description)

/-- The identifier in front of a version payload. -/
def versionPayloadId : UInt8 := 0x00

/-- The identifier in front of the payload of a simulation step. -/
def simTimePayloadId : UInt8 := 0x02

/-- The payload of a reply, where it has one. -/
def Reply.writePayload : Reply → Except Error (Option Bytes)
  | status _ => .ok none
  | value _ responseId variableId element content => do
    let name ← writeString element
    return some (responseId :: variableId :: name ++ (← content.write))
  | version _ id text => do
    return some (versionPayloadId :: writeInt32 id ++ (← writeString text))
  | simTime _ data => do
    return some (simTimePayloadId :: (← data.write))

/-- The status that goes in front of the payload. A version is announced without words. -/
def Reply.announced : Reply → Status
  | version head .. => if head.isOk then .ok head.opcode else head
  | reply => reply.head

namespace Packet

/-- The length of the packet with its length field. -/
def length (packet : Packet) : Nat := packetField + packet.frames.length

/-- Whether the packet has no frames yet. -/
def isEmpty (packet : Packet) : Bool := packet.frames.isEmpty

/-- The packet as it stands. -/
def bytes (packet : Packet) : Bytes := writeInt32 packet.lengthField ++ packet.frames

/-- The packet with frames behind those that it has. -/
def extend (packet : Packet) (front : Bytes) : Packet :=
  { packet with frames := packet.frames ++ front }

@[simp] theorem extend_nil (packet : Packet) : packet.extend [] = packet := by
  simp [extend]

@[simp] theorem extend_extend (packet : Packet) (first second : Bytes) :
    (packet.extend first).extend second = packet.extend (first ++ second) := by
  simp [extend]

@[simp] theorem finalized_extend (packet : Packet) (front : Bytes) :
    (packet.extend front).finalized = packet.finalized := rfl

/-- The building of a packet. Where it fails, the packet is left as far as it got. -/
abbrev Building := EStateM Error Packet

/-- A result that leaves the packet alone. -/
def given {α : Type} (result : Except Error α) : Building α :=
  match result with
  | .ok value => return value
  | .error cause => throw cause

/-- Put bytes behind what the packet holds. -/
def put (bytes : Bytes) : Building Unit := modify fun packet => packet.extend bytes

/-- Refuse a packet that takes no more frames. -/
def refuseFinalized : Building Unit := do
  if (← get).finalized then throw .packetFinalized

/-- Put the length field of a frame whose body and one-byte field take `length` bytes. -/
def putFrameLength (length : Nat) : Building Unit := do
  if length = 0 then throw (.framing .uncountedLength)
  else if length ≤ maxShortFrame then put [UInt8.ofNat length]
  else
    let extended ← given (writeLength (length + 4))
    put [0]
    put extended

/-- Put the frame around a body. -/
def putFrame (body : Bytes) : Building Unit := do
  putFrameLength (body.length + 1)
  put body

/-- Append the frame around a body. -/
def addBody (body : Bytes) : Building Unit := do
  refuseFinalized
  putFrame body

/-- Append a status. -/
def addStatus (status : Status) : Building Unit := do
  refuseFinalized
  let body ← given status.write
  putFrame body

/-- Append a reply: its status, then its payload if it has one. The payload is encoded
first, so that its error is the one reported, and nothing is appended then. -/
def appendReply (reply : Reply) : Building Unit := do
  refuseFinalized
  let payload ← given reply.writePayload
  addStatus reply.announced
  match payload with
  | none => return
  | some body => addBody body

/-- Put the length into a length field that is still a placeholder. -/
def fillLength : Building Unit := do
  let packet ← get
  if packet.placeholder then
    let lengthField ← given (packetLength packet.length)
    set { packet with lengthField, placeholder := false }

/-- Allow no further frames. -/
def finalize : Building Unit := do
  if (← get).finalized then return
  fillLength
  modify fun packet => { packet with finalized := true }

/-- The packet behind what is built into it, unless that fails. -/
def grow (packet : Packet) (building : Building Unit) : Except Error Packet :=
  match building.run packet with
  | .ok _ after => .ok after
  | .error cause _ => .error cause

/-- The packet with a reply appended. -/
def addReply (packet : Packet) (reply : Reply) : Except Error Packet :=
  packet.grow (appendReply reply)

/-- The packet as it goes over the wire. -/
def send (packet : Packet) : Except Error Bytes :=
  if packet.finalized then .ok packet.bytes
  else do return (← packet.grow fillLength).bytes

/-- A finalized packet that holds one status. Its length is known before its frame is
written. -/
def ofStatus (status : Status) : Except Error Packet := do
  let body ← status.write
  let lengthField ← packetLength (packetField + frameSize body.length)
  let frame ← writeFrame body
  return { lengthField, frames := frame, placeholder := false, finalized := true }

/-- What can be done to a packet under construction. -/
inductive Edit where
  | okStatus (opcode : UInt8)
  | errStatus (opcode : UInt8) (description : String)
  | status (head : Status)
  | body (content : Bytes)
  | reply (answer : Reply)
  /-- An OK status and a value. -/
  | value (opcode responseId variableId : UInt8) (element : String) (content : Value)
  | finalize
deriving DecidableEq, Inhabited

def Edit.perform : Edit → Building Unit
  | .okStatus opcode => addStatus (.ok opcode)
  | .errStatus opcode description => addStatus (.err opcode description)
  | .status head => addStatus head
  | .body content => addBody content
  | .reply answer => appendReply answer
  | .value opcode responseId variableId element content =>
    appendReply (.value (.ok opcode) responseId variableId element content)
  | .finalize => Packet.finalize

/-- Make an edit. Gives how it went, and the packet behind it. -/
def attempt (packet : Packet) (edit : Edit) : Except Error Unit × Packet :=
  match edit.perform.run packet with
  | .ok _ after => (.ok (), after)
  | .error cause after => (.error cause, after)

/-- Make edits one after another, and go on behind those that fail. Gives the packet, and how
each edit went. -/
def performAll : List Edit → Packet → Packet × List (Edit × Except Error Unit)
  | [], packet => (packet, [])
  | edit :: rest, packet =>
    let (outcome, after) := packet.attempt edit
    let (last, later) := performAll rest after
    (last, (edit, outcome) :: later)

end Packet

end RemoteCrowd
