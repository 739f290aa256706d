import RemoteCrowd.Command.Codec
import RemoteCrowd.Config
import RemoteCrowd.Reply.Codec
import RemoteCrowd.Reply.Description
import RemoteCrowd.Wire.Stream

/-!
The client's side. A client writes one packet and reads one packet back. A request for a
single command gives its reply if the server accepted it, and otherwise the error that the
server rejected it with.
-/

namespace RemoteCrowd

open Wire

/-- The two directions of an open connection: what will still be read from it, and what was
written to it. -/
structure Link where
  incoming : Stream
  sent : Bytes := []
deriving DecidableEq, Inhabited

/-- What a client needs to know of the server. -/
structure Client where
  table : OpcodeTable
  maxPacketSize : Nat

namespace Client

/-- The client for the given settings. -/
def create (config : Config) : Except Error Client := do
  return ⟨← OpcodeTable.build config.opcodes, config.maxPacketSize⟩

/-- Dial an address, at most the given number of times. A connection that is made counts,
even where no client can be made of it. -/
def dialUpTo (dial : Nat → Except String Link) (config : Config) (address : String) :
    Nat → Nat → String → Except Error (Client × Link)
  | tried, 0, reason => .error (.network (.unreachable address tried reason))
  | tried, left + 1, _ =>
    match dial tried with
    | .ok link => do return (← create config, link)
    | .error reason => dialUpTo dial config address (tried + 1) left reason

/-- Connect to an address. There is always at least one attempt. -/
def connect (dial : Nat → Except String Link) (config : Config) (address : String) :
    Except Error (Client × Link) :=
  dialUpTo dial config address 0 (max config.connectAttempts 1) ""

/-- Something done over a connection. -/
abbrev Exchange := EStateM Error Link

/-- A result that leaves the connection alone. -/
def check {α : Type} : Except Error α → Exchange α
  | .ok value => return value
  | .error cause => throw cause

/-- Write to the connection. -/
def write (bytes : Bytes) : Exchange Unit :=
  modify fun link => { link with sent := link.sent ++ bytes }

/-- The body of the next packet that the server sends. -/
def readBody (client : Client) : Exchange Bytes := fun link =>
  match link.incoming.readPacket client.maxPacketSize with
  | (.ok (some body), incoming) => .ok body { link with incoming }
  | (.ok none, incoming) => .error (.network .closedByServer) { link with incoming }
  | (.error cause, incoming) => .error cause { link with incoming }

/-- Send a packet and read the replies to it. -/
def sendPacket (client : Client) (packet : Packet) : Exchange (List Reply) := do
  write (← check packet.send)
  check (readReplies client.table (← client.readBody))

/-- The packet of several commands. -/
def packetOf (client : Client) (commands : List Command) : Except Error Packet :=
  commands.foldlM (fun packet command => do
    packet.grow (Packet.addBody (← command.write client.table))) {}

/-- Send several commands in one packet. Nothing is sent if one of them cannot be
encoded. -/
def sendCommands (client : Client) (commands : List Command) : Exchange (List Reply) := do
  client.sendPacket (← check (client.packetOf commands))

/-- Send one command, and insist that the server accepts it. -/
def request (client : Client) (command : Command) : Exchange Reply := do
  match ← client.sendCommands [command] with
  | [] => throw (.framing .emptyReply)
  | reply :: _ =>
    if reply.head.isOk then return reply
    else
      throw (.rejected (client.table.opcodeOf command.operation) reply.head.description)

/-- Send one command, and keep the status only. -/
def requestStatus (client : Client) (command : Command) : Exchange Status := do
  return (← client.request command).head

/-- The error for a reply of another kind than asked for. -/
def unexpected (wanted : String) (got : Reply) : Error :=
  .framing (.unexpectedReply wanted got.describe)

/-- The server's version. -/
def getVersion (client : Client) : Exchange Reply := do
  match ← client.request .getVersion with
  | .version head id text => return .version head id text
  | other => throw (unexpected "version" other)

/-- Load a scenario by sending its text. -/
def sendFile (client : Client) (scenario : String) : Exchange Status :=
  client.requestStatus (.sendFile scenario)

/-- Load a scenario that the server has. -/
def load (client : Client) (options : List String) : Exchange Status :=
  client.requestStatus (.load options)

/-- Advance to a simulated time, or by one step where it is not positive. -/
def nextStep (client : Client) (target : Double) : Exchange Reply := do
  match ← client.request (.simStep target) with
  | .simTime head data => return .simTime head data
  | other => throw (unexpected "simulation step" other)

/-- The value of a variable. -/
def getValue (client : Client) (domain : Domain) (variableId : UInt8) (element : String) :
    Exchange Reply := do
  match ← client.request (.get domain variableId element) with
  | .value head responseId variableId element content =>
    return .value head responseId variableId element content
  | other => throw (unexpected "value" other)

/-- Give a variable a value. -/
def setValue (client : Client) (domain : Domain) (variableId : UInt8) (element : String)
    (value : Value) : Exchange Status :=
  client.requestStatus (.set domain variableId element value)

/-- End the session. -/
def close (client : Client) : Exchange Status :=
  client.requestStatus .close

end Client

end RemoteCrowd
