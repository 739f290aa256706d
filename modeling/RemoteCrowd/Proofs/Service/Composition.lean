import RemoteCrowd.Proofs.Request
import RemoteCrowd.Proofs.Service.Exchange
import RemoteCrowd.Proofs.Wire.Streams

/-!
Clients and services together. What a client gets for its commands is what performing them one
after another gives, although in between everything went over the wire twice. If a command has
no encoding, the service never hears of the others either.
-/

namespace RemoteCrowd

open Wire

namespace Service

variable {μ : Type}

/-- What comes of a command that is performed. -/
def execute (service : Service μ) (command : Command) (session : Session μ) :
    Option (Reaction μ) :=
  let opcode := service.table.opcodeOf command.operation
  reactionTo opcode ((do
    let reply ← service.perform opcode command
    return (reply, flowOf command) : Performance μ (Reply × Flow)).run session)

/-- What comes of commands that are performed one after another. -/
def executions (service : Service μ) : List Command → Session μ → Exchange μ :=
  inTurn service.execute

variable {service : Service μ} {assigned : AssignedOpcodes}

/-- A frame in which a command is read does what the command does. -/
theorem react_eq_execute (built : OpcodeTable.build assigned = .ok service.table) {frame : Frame}
    {command : Command} (read : Command.ofFrame service.table frame = .ok command)
    (session : Session μ) : service.react frame session = service.execute command session := by
  have looked := (Command.ofFrame_eq_ok_iff_lookup.mp read).1
  have opcode : service.table.opcodeOf command.operation = frame.opcode :=
    ((OpcodeTable.lookup_eq_ok_iff built).mp looked).2
  rw [react, attempt_of_ok read, execute, opcode]

theorem reactions_eq_executions (built : OpcodeTable.build assigned = .ok service.table)
    {frames : List Frame} {commands : List Command}
    (read : frames.map (Command.ofFrame service.table) = commands.map .ok) (session : Session μ) :
    service.reactions frames session = service.executions commands session := by
  induction commands generalizing frames session with
  | nil =>
    obtain rfl := List.map_eq_nil_iff.mp read
    rfl
  | cons command rest ih =>
    obtain ⟨frame, later, rfl, readFirst, readRest⟩ := List.map_eq_cons_iff.mp read
    unfold reactions executions at ih ⊢
    rw [inTurn, inTurn, react_eq_execute built readFirst]
    cases service.execute command session with
    | none => rfl
    | some first => simp only [ih readRest]

/-- The packet of commands is answered as the commands are performed. -/
theorem exchange_eq_executions (built : OpcodeTable.build assigned = .ok service.table)
    {commands : List Command} (known : ∀ command ∈ commands, command.operation ∈ Operation.all)
    {body : Bytes} (written : writeMany (Command.writeFramed service.table) commands = .ok body)
    (session : Session μ) :
    service.exchange body session = service.executions commands session := by
  obtain ⟨frames, split, read⟩ := splitFrames_of_writeMany built known written
  rw [exchange, split, reactions_eq_executions built read session, andFault]
  simp only [faultReply, Option.map_none, Option.toList_none, List.append_nil]
  split <;> rfl

theorem respond_eq_ok {body bytes : Bytes} {session : Session μ} {flow : Flow}
    (ends : (service.exchange body session).flow? = some flow)
    (written : writeMany Reply.write (service.exchange body session).replies = .ok bytes)
    (fits : packetField + bytes.length ≤ maxLength) :
    (service.respond body).run session =
      .ok (bigEndian packetField (packetField + bytes.length) ++ bytes, flow)
        (service.exchange body session).session := by
  have sent : Packet.send { frames := bytes } =
      .ok (bigEndian packetField (packetField + bytes.length) ++ bytes) :=
    Packet.send_eq_ok_iff.mpr ⟨fits, rfl⟩
  rw [respond, EStateM.run_bind, answer_eq_ok ends written]
  simp only [sent]
  rfl

/-- A body with a step that never ends has no answer, unless a reply fails before. -/
theorem respond_eq_endless {body bytes : Bytes} {session : Session μ}
    (endless : (service.exchange body session).flow? = none)
    (written : writeMany Reply.write (service.exchange body session).replies = .ok bytes) :
    (service.respond body).run session = .error .endless (service.exchange body session).session := by
  have comes := comes_answer service body session
  rw [respond, EStateM.run_bind]
  generalize (service.answer body).run session = result at comes ⊢
  cases comes with
  | answered put ends => cases endless.symm.trans ends
  | endless put goesOn => rfl
  | refused after refuses => cases refuses.symm.trans (writeMany_put written)

/-- A conversation goes by the next packet and the stream behind it. -/
theorem converse_eq (service : Service μ) (stream : Stream) (session : Session μ) :
    service.converse stream session =
      match stream.readPacket service.config.maxPacketSize with
      | (.ok none, _) => ⟨[], .ok (), session⟩
      | (.error cause, _) =>
        if cause.isDeparture then ⟨[], .ok (), session⟩
        else ⟨malformedPacket.toOption.getD [], .error (.error cause), session⟩
      | (.ok (some body), rest) =>
        match service.respond body session with
        | .error lapse after => ⟨[], .error lapse, after⟩
        | .ok (bytes, .close) after => ⟨bytes, .ok (), after⟩
        | .ok (bytes, .stay) after =>
          let later := service.converse rest after
          { later with sent := bytes ++ later.sent } := by
  rw [converse]
  split
  · next read => simp only [read]
  · next read => simp only [read]
  · next body rest read =>
    cases responded : service.respond body session with
    | error lapse after => simp only [read, responded]
    | ok answered after =>
      obtain ⟨bytes, flow⟩ := answered
      cases flow with
      | close => simp only [read, responded]
      | stay => simp only [read, responded]

/-- Nothing happens as long as the stream brings nothing. -/
theorem converse_eq_of_silent {stream rest : Stream} (silent : stream.Brings [] rest)
    (session : Session μ) : service.converse stream session = service.converse rest session := by
  rw [converse_eq, converse_eq service rest, silent.readPacket_eq]

/-- What follows the replies to commands in a conversation. Commands that never end are not
answered. -/
def goesOn (service : Service μ) (answer : Bytes) (after : Exchange μ) (rest : Stream) :
    Conversation μ :=
  match after.flow? with
  | none => ⟨[], .error .endless, after.session⟩
  | some .close => ⟨answer, .ok (), after.session⟩
  | some .stay =>
    let later := service.converse rest after.session
    { later with sent := answer ++ later.sent }

theorem converse_eq_goesOn {stream rest : Stream} {body bytes : Bytes} {session : Session μ}
    (brings : stream.Brings (bigEndian packetField (packetField + body.length) ++ body) rest)
    (fits : packetField + body.length ≤ maxLength)
    (allowed : packetField + body.length ≤ service.config.maxPacketSize)
    (written : writeMany Reply.write (service.exchange body session).replies = .ok bytes)
    (fitsBack : packetField + bytes.length ≤ maxLength) :
    service.converse stream session =
      service.goesOn (bigEndian packetField (packetField + bytes.length) ++ bytes)
        (service.exchange body session) rest := by
  obtain ⟨left, read, silent⟩ := brings.readPacket fits allowed
  rw [converse_eq, read, goesOn]
  cases ends : (service.exchange body session).flow? with
  | none =>
    have responded := respond_eq_endless ends written
    rw [EStateM.run] at responded
    simp only [responded]
  | some flow =>
    have responded := respond_eq_ok ends written fitsBack
    rw [EStateM.run] at responded
    simp only [responded]
    cases flow with
    | close => rfl
    | stay => simp only [converse_eq_of_silent silent]

end Service

namespace Client

variable {μ : Type} {assigned : AssignedOpcodes}

/-- Whatever comes back, the client writes the request for the commands. -/
def Asks (client : Client) (commands : List Command) (request : Bytes) : Prop :=
  ∀ link, ∃ left,
    (∃ replies, (client.sendCommands commands).run link =
      .ok replies ⟨left, link.sent ++ request⟩) ∨
    ∃ cause, (client.sendCommands commands).run link = .error cause ⟨left, link.sent ++ request⟩

/-- One call of a client. Whatever comes back, the client writes the request. The service answers
the request as the commands are performed on its session. And the client reads this answer as the
replies to the commands. -/
structure Composes (client : Client) (service : Service μ) (commands : List Command)
    (session : Session μ) (request answer : Bytes) : Prop where
  asks : client.Asks commands request
  answers : ∀ stream rest, stream.Brings request rest →
    service.converse stream session =
      service.goesOn answer (service.executions commands session) rest
  hears : ∀ link rest, link.incoming.Brings answer rest → ∃ left, left.Brings [] rest ∧
    (client.sendCommands commands).run link =
      .ok (service.executions commands session).replies ⟨left, link.sent ++ request⟩

variable {client : Client} {service : Service μ} {commands : List Command} {session : Session μ}

/-- A call composes if the packets on both ways fit. -/
theorem exists_composes (built : OpcodeTable.build assigned = .ok service.table)
    (shared : client.table = service.table)
    (known : ∀ command ∈ commands, command.operation ∈ Operation.all)
    (encode : ∀ command ∈ commands, ∃ body, command.write client.table = .ok body)
    (allowed : requestSize client.table commands ≤ service.config.maxPacketSize)
    (fits : requestSize client.table commands ≤ maxLength)
    (allowedBack : replySize (service.executions commands session).replies ≤ client.maxPacketSize)
    (fitsBack : replySize (service.executions commands session).replies ≤ maxLength) :
    ∃ request answer, client.Composes service commands session request answer := by
  obtain ⟨body, written⟩ := exists_writeMany_command encode fits
  have size := length_of_writeMany_command written
  have packed := packetOf_eq_ok_iff.mpr ⟨body, written, rfl⟩
  rw [← size] at allowed fits
  rw [shared] at written
  have performed := Service.exchange_eq_executions built known written session
  rw [← performed] at allowedBack fitsBack
  have short : ∀ reply ∈ (service.exchange body session).replies, reply.size ≤ maxLength :=
    fun reply member => (Reply.size_le_replySize member).trans fitsBack
  obtain ⟨bytes, writtenBack, -⟩ := Service.exists_writeMany_exchange short
  rw [← length_of_writeMany_reply writtenBack] at allowedBack fitsBack
  let request := bigEndian packetField (packetField + body.length) ++ body
  let answer := bigEndian packetField (packetField + bytes.length) ++ bytes
  have sent : Packet.send { frames := body } = .ok request :=
    Packet.send_eq_ok_iff.mpr ⟨fits, rfl⟩
  refine ⟨request, answer, ?_, ?_, ?_⟩
  · intro link
    rw [run_sendCommands packed sent]
    exact exists_run_awaitReplies client _
  · intro stream rest brings
    rw [← performed]
    exact Service.converse_eq_goesOn brings fits allowed writtenBack fitsBack
  · intro link rest brings
    have read := Service.readReplies_exchange writtenBack
    rw [← shared, performed] at read
    obtain ⟨left, arrived, silent⟩ := brings.readPacket fitsBack allowedBack
    rw [run_sendCommands packed sent]
    exact ⟨left, silent, run_awaitReplies arrived read⟩

/-- A call is answered as its commands are performed one after another, up to the first that ends
the session, and the session is left as they leave it. The packets must not be longer than the other
side allows, and the answer not longer than a length field can say. A call with a step that goes on
for ever is not answered. If one of the commands has no encoding, or the request is too long for a
length field, then the call fails, nothing is written, and as long as the service hears nothing its
session stays as it is. -/
theorem composes_with_service (client : Client) (service : Service μ)
    (built : OpcodeTable.build assigned = .ok service.table)
    (shared : client.table = service.table) (commands : List Command) (session : Session μ) :
    ((∀ command ∈ commands, command.operation ∈ Operation.all) →
      (∀ command ∈ commands, ∃ body, command.write client.table = .ok body) →
      requestSize client.table commands ≤ service.config.maxPacketSize →
      requestSize client.table commands ≤ maxLength →
      replySize (service.executions commands session).replies ≤ client.maxPacketSize →
      replySize (service.executions commands session).replies ≤ maxLength →
      ∃ request answer, client.Composes service commands session request answer) ∧
    ((∃ command ∈ commands, ∀ body, command.write client.table ≠ .ok body) ∨
        maxLength < requestSize client.table commands →
      (∀ link, ∃ cause, (client.sendCommands commands).run link = .error cause link) ∧
      ∀ stream rest, stream.Brings [] rest →
        service.converse stream session = service.converse rest session) := by
  constructor
  · intro known encode allowed fits allowedBack fitsBack
    exact exists_composes built shared known encode allowed fits allowedBack fitsBack
  · intro unwritable
    constructor
    · exact run_sendCommands_of_unwritable unwritable
    · intro stream rest silent
      exact Service.converse_eq_of_silent silent session

private def visitor : Client where
  table := .standard
  maxPacketSize := 128

private def host : Service Unit where
  config := { versionText := "v" }
  table := .standard
  movement := .constantVelocity

private def visit : List Command := [.getVersion, .simStep .zero, .close, .setOrder 1]

/-- A call that ends the session before its last command, and one with a text that has no
encoding. -/
theorem composes_with_service_visit :
    (∃ request answer, visitor.Composes host visit {} request answer) ∧
      (host.executions visit {}).replies.map
          (fun reply => (reply.head.opcode, reply.head.isOk)) =
        [(0x00, true), (0x02, false), (0x7F, true)] ∧
      ∀ link, ∃ cause, (visitor.sendCommands [.close, .sendFile "größer"]).run link =
        .error cause link := by
  have built : OpcodeTable.build {} = .ok host.table := by rfl
  have known : ∀ command ∈ visit, command.operation ∈ Operation.all := by decide
  have encode : ∀ command ∈ visit, ∃ body, command.write visitor.table = .ok body := by
    intro command member
    simp only [visit, List.mem_cons, List.not_mem_nil, or_false] at member
    rcases member with rfl | rfl | rfl | rfl <;> exact ⟨_, rfl⟩
  have unwritable : ∃ command ∈ [.close, .sendFile "größer"], ∀ body,
      Command.write visitor.table command ≠ .ok body := by
    refine ⟨.sendFile "größer", by simp, ?_⟩
    intro body written
    cases written
  obtain ⟨composes, -⟩ := composes_with_service visitor host built rfl visit {}
  obtain ⟨-, fails⟩ := composes_with_service visitor host built rfl [.close, .sendFile "größer"] {}
  refine ⟨?_, by decide +kernel, (fails (.inl unwritable)).1⟩
  apply composes known encode <;> decide +kernel

end Client

end RemoteCrowd
