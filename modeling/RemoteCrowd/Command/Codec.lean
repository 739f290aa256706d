import RemoteCrowd.Command.OpcodeTable
import RemoteCrowd.Value.Codec
import RemoteCrowd.Wire.Frame

/-!
Commands and their encoding. A command is read from a frame by the operation of its
opcode, nothing may follow its arguments, and every error names the opcode.
-/

namespace RemoteCrowd

open Wire

/-- A request of a client. -/
inductive Command where
  /-- Ask for the version of the protocol. -/
  | getVersion
  /-- Load a scenario file that the options name. -/
  | load (options : List String)
  /-- Advance to a simulated time, or by one step where it is not positive. -/
  | simStep (target : Double)
  /-- Announce the client's place among several. -/
  | setOrder (order : Int32)
  /-- Load the scenario whose text is sent along. -/
  | sendFile (scenario : String)
  /-- End the session. -/
  | close
  | get (domain : Domain) (variableId : UInt8) (element : String)
  | set (domain : Domain) (variableId : UInt8) (element : String) (value : Value)
  /-- A subscription, kept as it was sent. -/
  | subscribe (domain : Domain) (payload : Bytes)
deriving DecidableEq, Inhabited

namespace Command

def operation : Command → Operation
  | getVersion => .getVersion
  | load _ => .load
  | simStep _ => .simStep
  | setOrder _ => .setOrder
  | sendFile _ => .sendFile
  | close => .close
  | get domain .. => .get domain
  | set domain .. => .set domain
  | subscribe domain _ => .subscribe domain

/-- The arguments behind the opcode. -/
def writeArguments : Command → Except Error Bytes
  | getVersion | close => .ok []
  | load options => writeStringList options
  | simStep target => .ok (writeDouble target)
  | setOrder order => .ok (writeInt32 order)
  | sendFile scenario => writeString scenario
  | get _ variableId element => do return variableId :: (← writeString element)
  | set _ variableId element value => do
    let name ← writeString element
    return variableId :: name ++ (← value.write)
  | subscribe _ payload => .ok payload

/-- The body of the command's frame. -/
def write (table : OpcodeTable) (command : Command) : Except Error Bytes := do
  return table.opcodeOf command.operation :: (← command.writeArguments)

/-- All bytes that are left. -/
def readRest : Decoder Bytes := fun bytes => .ok bytes []

/-- The arguments of an operation. Responses are no requests. -/
def readArguments (opcode : UInt8) : Operation → Decoder Command
  | .getVersion => return getVersion
  | .load => return load (← readStringList)
  | .simStep => return simStep (← readDouble)
  | .setOrder => return setOrder (← readInt32)
  | .sendFile => return sendFile (← readString)
  | .close => return close
  | .get domain => do
    let variableId ← readUInt8
    let element ← readString
    return get domain variableId element
  | .set domain => do
    let variableId ← readUInt8
    let element ← readString
    let value ← readTagged
    return set domain variableId element value
  | .subscribe domain => return subscribe domain (← readRest)
  | .getResponse _ | .subscribeResponse _ => throw (.unknownOpcode opcode)

/-- The arguments of an operation with nothing behind them. -/
def readWhole (opcode : UInt8) (operation : Operation) : Decoder Command := do
  let command ← readArguments opcode operation
  expectEnd operation.label
  return command

/-- The command in a frame. -/
def ofFrame (table : OpcodeTable) (frame : Frame) : Except Error Command :=
  match table.lookup frame.opcode with
  | .error cause => .error (cause.wrap frame.opcode)
  | .ok operation =>
    match (readWhole frame.opcode operation).run frame.payload with
    | .ok command _ => .ok command
    | .error cause _ => .error (cause.wrap frame.opcode)

end Command

end RemoteCrowd
