import RemoteCrowd.Command.Domain

/-!
The operations of the protocol, apart from their arguments. All opcodes are fixed but two:
those that change the simulation and the user interface are assigned per deployment.
-/

namespace RemoteCrowd

/-- What an opcode stands for. -/
inductive Operation where
  | getVersion
  | load
  | simStep
  | setOrder
  | sendFile
  | close
  | get (domain : Domain)
  | getResponse (domain : Domain)
  | set (domain : Domain)
  | subscribe (domain : Domain)
  | subscribeResponse (domain : Domain)
deriving DecidableEq, Inhabited

/-- The group an operation belongs to. -/
inductive OperationKind where
  | control
  | retrieval
  | change
  | subscription
  | response
deriving DecidableEq, Inhabited

/-- The opcodes that each deployment assigns. -/
structure AssignedOpcodes where
  simulation : UInt8 := 0xcb
  gui : UInt8 := 0xcc
deriving DecidableEq, Inhabited

namespace Operation

def kind : Operation → OperationKind
  | getVersion | load | simStep | setOrder | sendFile | close => .control
  | get _ => .retrieval
  | set _ => .change
  | subscribe _ => .subscription
  | getResponse _ | subscribeResponse _ => .response

/-- The operation that answers this one with a payload. -/
def response? : Operation → Option Operation
  | get domain => some (getResponse domain)
  | subscribe domain => some (subscribeResponse domain)
  | _ => none

/-- The opcode of an operation, whether or not the protocol has it. -/
def opcode (assigned : AssignedOpcodes) : Operation → UInt8
  | getVersion => 0x00
  | load => 0x01
  | simStep => 0x02
  | setOrder => 0x03
  | sendFile => 0x75
  | close => 0x7F
  | get domain => 0xa0 + domain.offset
  | getResponse domain => 0xb0 + domain.offset
  | set .simulation => assigned.simulation
  | set .gui => assigned.gui
  | set domain => 0xc0 + domain.offset
  | subscribe domain => 0xd0 + domain.offset
  | subscribeResponse domain => 0xe0 + domain.offset

/-- The operations of one domain that the protocol has. -/
def ofDomain (domain : Domain) : List Operation :=
  [get domain, getResponse domain] ++
    (if domain.settable then [set domain] else []) ++
    (if domain.subscribable then [subscribe domain, subscribeResponse domain] else [])

/-- Every operation that the protocol has. -/
def all : List Operation :=
  [getVersion, load, simStep, setOrder, sendFile, close] ++ Domain.all.flatMap ofDomain

def label : Operation → String
  | getVersion => "GetVersion"
  | load => "Load"
  | simStep => "SimStep"
  | setOrder => "SetOrder"
  | sendFile => "SendFile"
  | close => "Close"
  | get domain => "GET " ++ domain.name
  | getResponse domain => "RESPONSE GET " ++ domain.name
  | set domain => "SET " ++ domain.name
  | subscribe domain => "SUBSCRIBE " ++ domain.name
  | subscribeResponse domain => "RESPONSE SUBSCRIBE " ++ domain.name

end Operation

end RemoteCrowd
