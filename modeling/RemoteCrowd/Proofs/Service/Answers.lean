import RemoteCrowd.Proofs.ReplyCodec
import RemoteCrowd.Proofs.Service.Failure

/-!
What the service answers. Whatever a frame holds, it is answered with one reply under its
own opcode, and the reply has the shape that clients expect there.
-/

namespace RemoteCrowd

open Wire

theorem Text.isAscii_asciiOnly (text : String) : isAscii (asciiOnly text) = true := by
  simp only [isAscii, asciiOnly, String.toList_ofList, List.all_map, List.all_eq_true,
    Function.comp_apply, decide_eq_true_eq]
  intro c _
  split
  · next small => exact small
  · decide

theorem Operation.isAscii_label (operation : Operation) :
    Text.isAscii operation.label = true := by
  have name : ∀ domain : Domain, Text.isAscii domain.name = true := by
    intro domain
    cases domain <;> decide
  have addressed : ∀ (verb : String) (domain : Domain), Text.isAscii verb = true →
      Text.isAscii (verb ++ domain.name) = true := by
    intro verb domain ascii
    rw [Text.isAscii_append, ascii, name]
    rfl
  cases operation with
  | getVersion | load | simStep | setOrder | sendFile | close => decide
  | get domain => exact addressed "GET " domain (by decide)
  | getResponse domain => exact addressed "RESPONSE GET " domain (by decide)
  | set domain => exact addressed "SET " domain (by decide)
  | subscribe domain => exact addressed "SUBSCRIBE " domain (by decide)
  | subscribeResponse domain => exact addressed "RESPONSE SUBSCRIBE " domain (by decide)

namespace Reply

/-- The replies that performing a command gives under its opcode: the command is done, it is
declined, or it is answered with the payload that belongs to its operation. -/
inductive Performed (table : OpcodeTable) (opcode : UInt8) : Reply → Prop where
  | done (bare : hasPayload table opcode = false) :
    Performed table opcode (.status (.ok opcode))
  | declined (operation : Operation) : Performed table opcode (Service.decline opcode operation)
  | value {domain : Domain} (variableId : UInt8) (element : String) (content : Value)
    (known : table.lookup opcode = .ok (.get domain)) :
    Performed table opcode
      (.value (.ok opcode) (table.opcodeOf (.getResponse domain)) variableId element content)
  | version (id : Int32) (text : String) (known : table.lookup opcode = .ok .getVersion) :
    Performed table opcode (.version (.ok opcode) id text)
  | simTime (data : Value) (known : table.lookup opcode = .ok .simStep) :
    Performed table opcode (.simTime (.ok opcode) data)

/-- The replies that the service gives under an opcode: what performing a command gives, or the
reason why there is no such thing. -/
inductive Answers (table : OpcodeTable) (opcode : UInt8) : Reply → Prop where
  | performed {reply : Reply} (performed : reply.Performed table opcode) :
    Answers table opcode reply
  | refused (cause : Error) : Answers table opcode (.status (Service.refusal opcode cause))

variable {table : OpcodeTable} {opcode : UInt8} {reply : Reply}

/-- A command that is performed is not answered with an error. -/
theorem Performed.code_ne_err (performed : reply.Performed table opcode) :
    reply.head.code ≠ .err := by
  cases performed <;> exact StatusCode.noConfusion

namespace Answers

theorem expected (answers : reply.Answers table opcode) : reply.Expected table := by
  cases answers with
  | refused cause => exact .status rfl
  | performed performed =>
    cases performed with
    | done bare => exact .status (by rw [Status.ok, bare, Bool.and_false])
    | declined operation => exact .status rfl
    | value variableId element content known => exact .value variableId element content rfl known
    | version id text known => exact .version id text rfl known
    | simTime data known => exact .simTime data rfl known

theorem opcode_head (answers : reply.Answers table opcode) : reply.head.opcode = opcode := by
  cases answers with
  | refused cause => rfl
  | performed performed => cases performed <;> rfl

/-- Clients are told the reply as it was given. -/
theorem told_eq (answers : reply.Answers table opcode) : reply.told = reply := by
  cases answers with
  | refused cause => rfl
  | performed performed => cases performed <;> rfl

theorem isAscii_description (answers : reply.Answers table opcode) :
    Text.isAscii reply.announced.description = true := by
  cases answers with
  | refused cause => exact Text.isAscii_asciiOnly cause.message
  | performed performed =>
    cases performed with
    | declined operation =>
      have label := Operation.isAscii_label operation
      show Text.isAscii (operation.label ++ " is not implemented") = true
      rw [Text.isAscii_append, label]
      decide
    | done | value | version | simTime => rfl

end Answers

end Reply

namespace Service

variable {μ : Type}

theorem givesOnly_performGet (service : Service μ) {opcode : UInt8} {domain : Domain}
    (known : service.table.lookup opcode = .ok (.get domain)) (variableId : UInt8)
    (element : String) :
    GivesOnly (Reply.Performed service.table opcode)
      (service.performGet opcode domain variableId element) := by
  cases domain with
  | simulation | person =>
    exact .bind fun _ => .bind fun content => .pure (.value variableId element content known)
  | _ => exact .pure (.declined _)

theorem givesOnly_performSet {table : OpcodeTable} {opcode : UInt8} {domain : Domain}
    (known : table.lookup opcode = .ok (.set domain)) (variableId : UInt8) (element : String)
    (value : Value) :
    GivesOnly (Reply.Performed table opcode)
      (performSet opcode domain variableId element value : Performance μ Reply) := by
  cases domain with
  | person =>
    have bare : hasPayload table opcode = false := by rw [hasPayload, known]; rfl
    exact .bind fun _ => .bind fun _ => .pure (.done bare)
  | _ => exact .pure (.declined _)

/-- A command that came with its own opcode is answered under this opcode. -/
theorem givesOnly_perform (service : Service μ) {opcode : UInt8} {command : Command}
    (known : service.table.lookup opcode = .ok command.operation) :
    GivesOnly (Reply.Performed service.table opcode) (service.perform opcode command) := by
  cases command with
  | getVersion => exact .pure (.version _ _ known)
  | simStep target => exact .bind fun _ => .bind fun _ => .pure (.simTime _ known)
  | get domain variableId element => exact givesOnly_performGet service known variableId element
  | set domain variableId element value =>
    exact givesOnly_performSet known variableId element value
  | subscribe domain payload => exact .pure (.declined _)
  | load options =>
    have bare : hasPayload service.table opcode = false := by rw [hasPayload, known]; rfl
    exact .bind fun _ => .bind fun _ => .bind fun _ => .pure (.done bare)
  | sendFile scenario =>
    have bare : hasPayload service.table opcode = false := by rw [hasPayload, known]; rfl
    exact .bind fun _ => .bind fun _ => .pure (.done bare)
  | close =>
    have bare : hasPayload service.table opcode = false := by rw [hasPayload, known]; rfl
    exact .bind fun _ => .pure (.done bare)
  | setOrder order =>
    have bare : hasPayload service.table opcode = false := by rw [hasPayload, known]; rfl
    exact .pure (.done bare)

/-- Whether the frame is read as the command that ends the session. -/
def closes (service : Service μ) (frame : Frame) : Bool :=
  match Command.ofFrame service.table frame with
  | .ok command => command.operation == .close
  | .error _ => false

end Service

end RemoteCrowd
