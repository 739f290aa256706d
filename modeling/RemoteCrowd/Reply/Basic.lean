import RemoteCrowd.Value
import RemoteCrowd.Bytes

/-!
Replies of the server. Every reply has a status, and some carry a payload behind it: a
value, the version, or the results of a simulation step.
-/

namespace RemoteCrowd

/-- How a command went. -/
inductive StatusCode where
  | ok
  | notImplemented
  | err
deriving DecidableEq, Inhabited

namespace StatusCode

def all : List StatusCode := [ok, notImplemented, err]

def id : StatusCode → UInt8
  | ok => 0x00
  | notImplemented => 0x01
  | err => 0xFF

def name : StatusCode → String
  | ok => "Ok"
  | notImplemented => "NotImplemented"
  | err => "Err"

def ofId (id : UInt8) : Except Error StatusCode :=
  match all.find? fun code => code.id == id with
  | some code => .ok code
  | none => .error (.framing (.unknownStatus id))

end StatusCode

/-- The status of one command, which its opcode names. -/
structure Status where
  opcode : UInt8
  code : StatusCode
  description : String
deriving DecidableEq, Inhabited

namespace Status

def ok (opcode : UInt8) : Status := ⟨opcode, .ok, ""⟩

def err (opcode : UInt8) (description : String) : Status := ⟨opcode, .err, description⟩

def notImplemented (opcode : UInt8) (what : String) : Status :=
  ⟨opcode, .notImplemented, what ++ " is not implemented"⟩

def isOk (status : Status) : Bool := status.code == .ok

end Status

/-- The answer to one command. -/
inductive Reply where
  | status (head : Status)
  | value (head : Status) (responseId variableId : UInt8) (element : String) (value : Value)
  | version (head : Status) (id : Int32) (text : String)
  | simTime (head : Status) (data : Value)
deriving DecidableEq, Inhabited

/-- The status that every reply starts with. -/
def Reply.head : Reply → Status
  | status head => head
  | value head .. => head
  | version head .. => head
  | simTime head _ => head

end RemoteCrowd
