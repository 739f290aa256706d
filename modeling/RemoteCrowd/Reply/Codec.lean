import RemoteCrowd.Command.OpcodeTable
import RemoteCrowd.Reply.Packet

/-!
Reading replies as a client does. The opcode in an OK status decides whether a payload
follows and of which shape it is.
-/

namespace RemoteCrowd

open Wire

/-- The code and description of a status, with nothing behind them. -/
def readStatusPayload (opcode : UInt8) : Decoder Status := do
  let code ← orThrow (StatusCode.ofId (← readUInt8))
  let description ← readString
  expectEnd "status response"
  return ⟨opcode, code, description⟩

/-- The value of a decoder that runs on a payload of its own. -/
def decodePayload {α : Type} (decoder : Decoder α) (payload : Bytes) : Except Error α :=
  match decoder.run payload with
  | .ok value _ => .ok value
  | .error cause _ => .error cause

def Status.ofFrame (frame : Frame) : Except Error Status :=
  decodePayload (readStatusPayload frame.opcode) frame.payload

/-- Whether an OK status for this opcode announces a payload. -/
def hasPayload (table : OpcodeTable) (opcode : UInt8) : Bool :=
  match table.lookup opcode with
  | .ok .getVersion | .ok .simStep => true
  | .ok operation => operation.kind == .retrieval
  | .error _ => false

/-- The payload of a version. -/
def readVersion (status : Status) : Decoder Reply := do
  let id ← readInt32
  let text ← readString
  return .version status id text

/-- The payload of a simulation step. -/
def readSimTime (status : Status) : Decoder Reply := do
  return .simTime status (← readTagged)

/-- The payload of a value, behind its opcode. -/
def readValueReply (status : Status) (responseId : UInt8) : Decoder Reply := do
  let variableId ← readUInt8
  let element ← readString
  let value ← readTagged
  return .value status responseId variableId element value

/-- A reply that takes up its whole payload. -/
def readAll (decoder : Decoder Reply) : Decoder Reply := do
  let reply ← decoder
  expectEnd "response payload"
  return reply

/-- The reply made of a status and the payload it announces. -/
def Reply.ofPayload (table : OpcodeTable) (status : Status) (frame : Frame) :
    Except Error Reply := do
  match ← table.lookup status.opcode with
  | .getVersion => decodePayload (readAll (readVersion status)) frame.payload
  | .simStep => decodePayload (readAll (readSimTime status)) frame.payload
  | operation =>
    if operation.response?.map table.opcodeOf = some frame.opcode then
      decodePayload (readAll (readValueReply status frame.opcode)) frame.payload
    else .error (.framing (.foreignResponse frame.opcode operation.label))

/-- The next reply. -/
def readReply (table : OpcodeTable) : Decoder Reply := do
  let status ← orThrow (Status.ofFrame (← readFrame))
  if status.isOk && hasPayload table status.opcode then
    orThrow (Reply.ofPayload table status (← readFrame))
  else return .status status

private theorem readReply_shrinks {table : OpcodeTable} {bytes rest : Bytes} {reply : Reply}
    (read : (readReply table).run bytes = .ok reply rest) : rest.length < bytes.length := by
  obtain ⟨frame, mid, first, next⟩ := run_bind_eq_ok.mp read
  have shorter := readFrame_shrinks first
  obtain ⟨status, after, made, last⟩ := run_bind_eq_ok.mp next
  obtain ⟨_, rfl⟩ := run_orThrow_eq_ok.mp made
  split at last
  · obtain ⟨payload, tail, second, done⟩ := run_bind_eq_ok.mp last
    have shorter' := readFrame_shrinks second
    obtain ⟨_, rfl⟩ := run_orThrow_eq_ok.mp done
    omega
  · obtain ⟨_, rfl⟩ := EStateM.Result.ok.inj last
    exact shorter

/-- All replies in the body of a packet. -/
def readReplies (table : OpcodeTable) (bytes : Bytes) : Except Error (List Reply) :=
  if bytes.isEmpty then .ok []
  else
    match _read : (readReply table).run bytes with
    | .error cause _ => .error cause
    | .ok reply rest => do return reply :: (← readReplies table rest)
termination_by bytes.length
decreasing_by exact readReply_shrinks (by assumption)

end RemoteCrowd
