import RemoteCrowd.Json.Fault
import RemoteCrowd.Number.Text
import RemoteCrowd.Text.Quoted

/-!
Everything that can go wrong between a byte on the wire and a step of the simulation. Each
error is a cause; its wording is derived from it. Errors of a command are wrapped once
with the opcode of that command, and only failures of the transport end a connection.
-/

namespace RemoteCrowd

/-- How a read or write of the transport failed. -/
inductive TransportFailure where
  | unexpectedEnd
  | reset
  | aborted
  | wouldBlock
  | timedOut
  | other
deriving DecidableEq, Inhabited

/-- A transport failure with the system's own description. -/
structure TransportFault where
  failure : TransportFailure
  detail : String
deriving DecidableEq, Inhabited

/-- The stream ended inside something that was announced. -/
def TransportFault.unexpectedEnd : TransportFault :=
  ⟨.unexpectedEnd, "failed to fill whole buffer"⟩

/-- Bytes that do not have the shape they announce. -/
inductive FramingFault where
  | truncated (item : String) (need left : Nat)
  | trailing (left : Nat) (after : String)
  | negativeString (length : Int32)
  | negativeStringList (length : Int32)
  | extendedLength (length : Int32)
  | uncountedLength
  | missingOpcode
  | unknownPhase (id : UInt8)
  | unknownStatus (id : UInt8)
  | foreignResponse (id : UInt8) (request : String)
  | truncatedPacketLength (got : Nat)
  | packetLength (total : Int32)
  | packetTooLarge (total max : Nat)
  | emptyReply
  | unexpectedReply (wanted got : String)
  | other (detail : String)
deriving DecidableEq, Inhabited

/-- Text that has no encoding, or bytes that have no text. -/
inductive EncodingFault where
  | notAscii (text : String)
  | notAsciiBytes
  | other (detail : String)
deriving DecidableEq, Inhabited

/-- A request that the session's present state refuses. -/
inductive AccessFault where
  | noScenario
  | finished
  | replaced
  | stepInProgress
  | interrupted
  | threadExited
  | invalidId (text : String)
  | unknownId (text : String)
  | other (detail : String)
deriving DecidableEq, Inhabited

/-- A scenario that cannot be loaded. -/
inductive LoadFault where
  | malformed (fault : Json.Fault)
  | stepLength (value : Double)
  | finishTime (value : Double)
  | duplicateId (id : Int32)
  | unreadable (path reason : String)
  | noScenarioOption (options : List String)
  | other (detail : String)
deriving DecidableEq, Inhabited

inductive NetworkFault where
  | unreachable (address : String) (attempts : Nat) (reason : String)
  | cannotBind (address reason : String)
  | closedByServer
  | other (detail : String)
deriving DecidableEq, Inhabited

inductive ConfigFault where
  | sharedOpcode (opcode : UInt8)
  | packetSize (size : Nat)
  | noAttempts
  | opcodeCollision (opcode : UInt8) (first second : String)
  | other (detail : String)
deriving DecidableEq, Inhabited

inductive Error where
  | transport (fault : TransportFault)
  | framing (fault : FramingFault)
  | unknownOpcode (opcode : UInt8)
  | unknownVariable (domain : String) (id : UInt8)
  | unknownType (tag : UInt8)
  | typeMismatch (expected got : String)
  | capacity (what : String) (length max : Nat)
  | encoding (fault : EncodingFault)
  | command (opcode : UInt8) (cause : Error)
  | packetFinalized
  | access (fault : AccessFault)
  | load (fault : LoadFault)
  | simulationFailed (reason : String)
  | network (fault : NetworkFault)
  | rejected (opcode : UInt8) (description : String)
  | config (fault : ConfigFault)
deriving DecidableEq, Inhabited

open Text (integer hexByte quoted quotedList)

private def count (n : Nat) : String := integer n

private def word (n : Int32) : String := integer n.toInt

def FramingFault.message : FramingFault → String
  | truncated item need left =>
    "truncated buffer reading " ++ item ++ ": need " ++ count need ++ " bytes, have " ++
      count left
  | trailing left after => count left ++ " trailing bytes after " ++ after
  | negativeString length => "negative string length " ++ word length
  | negativeStringList length => "negative string list length " ++ word length
  | extendedLength length =>
    "extended command length " ++ word length ++ " is smaller than its own field"
  | uncountedLength => "command length must count its own length field"
  | missingOpcode => "framed command without opcode"
  | unknownPhase id => "unknown traffic light phase " ++ hexByte id
  | unknownStatus id => "unknown response status " ++ hexByte id
  | foreignResponse id request =>
    "response id " ++ hexByte id ++ " does not answer " ++ request
  | truncatedPacketLength got =>
    "truncated packet length: got " ++ count got ++ " of 4 bytes"
  | packetLength total => "invalid packet length " ++ word total
  | packetTooLarge total max =>
    "Packet too large: " ++ count total ++ " bytes (max " ++ count max ++ ")"
  | emptyReply => "empty reply packet"
  | unexpectedReply wanted got => "expected " ++ wanted ++ " response, got " ++ got
  | other detail => detail

def EncodingFault.message : EncodingFault → String
  | notAscii text => "string " ++ quoted text ++ " is not ASCII"
  | notAsciiBytes => "string contains non-ASCII bytes"
  | other detail => detail

def AccessFault.message : AccessFault → String
  | noScenario => "no scenario loaded"
  | finished => "simulation run has finished"
  | replaced => "simulation run was replaced"
  | stepInProgress => "a simulation step is already in progress"
  | interrupted => "interrupted while waiting for the simulation step"
  | threadExited => "simulation thread has exited"
  | invalidId text => "invalid pedestrian id " ++ quoted text
  | unknownId text => "no pedestrian with id " ++ text
  | other detail => detail

def LoadFault.message : LoadFault → String
  | malformed fault => fault.message
  | stepLength value =>
    "simTimeStepLength must be positive, got " ++ Number.plain.render value
  | finishTime value => "finishTime must be positive, got " ++ Number.plain.render value
  | duplicateId id => "duplicate pedestrian id " ++ word id
  | unreadable path reason => "cannot read scenario " ++ path ++ ": " ++ reason
  | noScenarioOption options =>
    "LOAD expects '-c <scenario file>', got " ++ quotedList options
  | other detail => detail

def NetworkFault.message : NetworkFault → String
  | unreachable address attempts reason =>
    "cannot connect to " ++ address ++ " after " ++ count attempts ++ " attempts: " ++ reason
  | cannotBind address reason => "cannot bind " ++ address ++ ": " ++ reason
  | closedByServer => "server closed the connection"
  | other detail => detail

def ConfigFault.message : ConfigFault → String
  | sharedOpcode opcode =>
    "SET_SIMULATION_STATE and SET_GUI_STATE share opcode " ++ hexByte opcode
  | packetSize size => "max_packet_size must be at least 4 bytes, got " ++ count size
  | noAttempts => "client_connect_attempts must be at least 1"
  | opcodeCollision opcode first second =>
    "opcode " ++ hexByte opcode ++ " assigned to both " ++ first ++ " and " ++ second
  | other detail => detail

namespace Error

/-- The full wording of an error. -/
def message : Error → String
  | transport fault => "IO error: " ++ fault.detail
  | framing fault => "Framing error: " ++ fault.message
  | unknownOpcode opcode => "Unknown command id: " ++ hexByte opcode
  | unknownVariable domain id =>
    "Unknown variable id " ++ hexByte id ++ " for " ++ domain
  | unknownType tag => "Unknown data type tag: " ++ hexByte tag
  | typeMismatch expected got => "Type mismatch: expected " ++ expected ++ ", got " ++ got
  | capacity what length max =>
    "Capacity exceeded: " ++ what ++ " has " ++ count length ++ " elements (max " ++
      count max ++ ")"
  | encoding fault => "Encoding error: " ++ fault.message
  | command opcode cause => "Command " ++ hexByte opcode ++ " failed: " ++ cause.message
  | packetFinalized => "Cannot change finalized TraCI packet"
  | access fault => "State access error: " ++ fault.message
  | load fault => "Scenario load error: " ++ fault.message
  | simulationFailed reason => "Simulation failed: " ++ reason
  | network fault => "Network error: " ++ fault.message
  | rejected opcode description =>
    "Command " ++ hexByte opcode ++ " rejected by server: " ++ description
  | config fault => "Configuration error: " ++ fault.message

/-- Attach the opcode of the command that was being read. An error that already carries
one keeps it. -/
def wrap (opcode : UInt8) : Error → Error
  | command first cause => command first cause
  | cause => command opcode cause

/-- The opcode of the command that the error is about, where there is one. -/
def opcode? : Error → Option UInt8
  | command opcode _ => some opcode
  | unknownOpcode opcode => some opcode
  | _ => none

/-- The error below all wrappers. -/
def root : Error → Error
  | command _ cause => cause.root
  | cause => cause

/-- Whether the connection ends with this error. Every other error is answered with a
status, and the connection stays open. -/
def isFatal (error : Error) : Bool :=
  match error.root with
  | transport _ | network _ => true
  | _ => false

end Error

end RemoteCrowd
