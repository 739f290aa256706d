import RemoteCrowd.Command.Operation
import RemoteCrowd.Error

/-!
The table from opcodes to operations. It is built once for an assignment of the two free
opcodes, and building fails where two operations would share an opcode.
-/

namespace RemoteCrowd

/-- The operations by opcode, under one assignment of the free opcodes. -/
structure OpcodeTable where
  assigned : AssignedOpcodes
  entries : List (UInt8 × Operation)
deriving DecidableEq

namespace OpcodeTable

/-- The operation entered for an opcode. -/
def find? (entries : List (UInt8 × Operation)) (opcode : UInt8) : Option Operation :=
  (entries.find? fun entry => entry.1 == opcode).map Prod.snd

/-- Enter the operations one after another, unless an opcode is taken. -/
def enter (assigned : AssignedOpcodes) :
    List (UInt8 × Operation) → List Operation → Except Error (List (UInt8 × Operation))
  | entries, [] => .ok entries
  | entries, operation :: rest =>
    let opcode := operation.opcode assigned
    match find? entries opcode with
    | some first => .error (.config (.opcodeCollision opcode first.label operation.label))
    | none => enter assigned (entries ++ [(opcode, operation)]) rest

/-- The table for an assignment. -/
def build (assigned : AssignedOpcodes) : Except Error OpcodeTable := do
  return ⟨assigned, ← enter assigned [] Operation.all⟩

/-- The table for the usual assignment. -/
def standard : OpcodeTable :=
  ⟨{}, Operation.all.map fun operation => (operation.opcode {}, operation)⟩

def lookup (table : OpcodeTable) (opcode : UInt8) : Except Error Operation :=
  match find? table.entries opcode with
  | some operation => .ok operation
  | none => .error (.unknownOpcode opcode)

def opcodeOf (table : OpcodeTable) (operation : Operation) : UInt8 :=
  operation.opcode table.assigned

end OpcodeTable

end RemoteCrowd
