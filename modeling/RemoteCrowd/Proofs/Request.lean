import RemoteCrowd.Client
import RemoteCrowd.Proofs.Packet
import RemoteCrowd.Proofs.Wire.Splitting

/-!
Requests. A client puts the frames of its commands into one packet if all of them have an
encoding, and otherwise sends nothing. Splitting the packet gives frames in which exactly these
commands are read.
-/

namespace RemoteCrowd

open Wire

/-- A command in its frame. -/
def Command.writeFramed (table : OpcodeTable) (command : Command) : Except Error Bytes := do
  writeFrame (← command.write table)

/-- The bytes that a command takes in a packet, with the length field of its frame. -/
def Command.size (table : OpcodeTable) (command : Command) : Nat :=
  match command.write table with
  | .ok body => frameSize body.length
  | .error _ => 0

/-- The length of the packet of several commands. -/
def requestSize (table : OpcodeTable) (commands : List Command) : Nat :=
  packetField + (commands.map (Command.size table)).sum

variable {table : OpcodeTable} {commands : List Command}

theorem Command.writeFramed_eq_ok_iff {command : Command} {front : Bytes} :
    command.writeFramed table = .ok front ↔
      ∃ body, command.write table = .ok body ∧ writeFrame body = .ok front := by
  rw [writeFramed, bind_eq_ok_iff]

theorem Command.length_of_writeFramed {command : Command} {front : Bytes}
    (written : command.writeFramed table = .ok front) : front.length = command.size table := by
  obtain ⟨body, encoded, framed⟩ := writeFramed_eq_ok_iff.mp written
  rw [size, encoded]
  exact length_of_writeFrame_eq_ok framed

/-- Commands can be put into one packet if they all have an encoding and are not too long. -/
theorem exists_writeMany_command
    (encode : ∀ command ∈ commands, ∃ body, command.write table = .ok body)
    (fits : requestSize table commands ≤ maxLength) :
    ∃ bytes, writeMany (Command.writeFramed table) commands = .ok bytes := by
  have each : ∀ command ∈ commands, ∃ front, command.writeFramed table = .ok front ∧
      front.length = command.size table := by
    intro command member
    obtain ⟨body, written⟩ := encode command member
    have size : command.size table = frameSize body.length := by rw [Command.size, written]
    have share : command.size table ≤ (commands.map (Command.size table)).sum :=
      List.le_sum_of_mem (List.mem_map_of_mem member)
    unfold requestSize at fits
    have fits' : frameSize body.length ≤ maxLength := by omega
    obtain ⟨front, framed, -⟩ := exists_writeFrame fits'
    have written' := Command.writeFramed_eq_ok_iff.mpr ⟨body, written, framed⟩
    exact ⟨front, written', Command.length_of_writeFramed written'⟩
  obtain ⟨bytes, written, -⟩ := exists_writeMany each
  exact ⟨bytes, written⟩

theorem length_of_writeMany_command {bytes : Bytes}
    (written : writeMany (Command.writeFramed table) commands = .ok bytes) :
    packetField + bytes.length = requestSize table commands := by
  rw [requestSize, length_of_writeMany (fun _ _ => Command.length_of_writeFramed) written]

namespace Client

variable {client : Client}

theorem packetOf_eq_ok_iff {packet : Packet} :
    client.packetOf commands = .ok packet ↔
      ∃ bytes, writeMany (Command.writeFramed client.table) commands = .ok bytes ∧
        packet = { frames := bytes } := by
  have each : ∀ (packet : Packet) (command : Command), packet.finalized = false →
      (do packet.grow (Packet.addBody (← command.write client.table))) =
        (do return packet.extend (← command.writeFramed client.table)) := by
    intro packet command growing
    rw [Command.writeFramed, bind_assoc]
    simp only [Packet.grow_addBody growing]
  rw [packetOf, Packet.foldlM_eq_extend each rfl, bind_eq_ok_iff]
  simp only [pure_eq_ok_iff, eq_comm (a := packet)]
  rfl

/-- Either there is a packet of the commands, or nothing is written or read. -/
theorem packs_or_fails (client : Client) (commands : List Command) :
    (∃ bytes, writeMany (Command.writeFramed client.table) commands = .ok bytes ∧
      packetField + bytes.length ≤ maxLength) ∨
    ∀ link, ∃ cause, (client.sendCommands commands).run link = .error cause link := by
  cases packed : client.packetOf commands with
  | error cause =>
    right
    intro link
    refine ⟨cause, ?_⟩
    rw [sendCommands, packed]
    rfl
  | ok packet =>
    cases sent : packet.send with
    | ok request =>
      left
      obtain ⟨bytes, written, rfl⟩ := packetOf_eq_ok_iff.mp packed
      exact ⟨bytes, written, (Packet.send_eq_ok_iff.mp sent).1⟩
    | error cause =>
      right
      intro link
      refine ⟨cause, ?_⟩
      rw [sendCommands, packed]
      show (client.sendPacket packet).run link = _
      rw [sendPacket, sent]
      rfl

/-- A command without an encoding, or too many bytes, and nothing is written or read. -/
theorem run_sendCommands_of_unwritable
    (unwritable : (∃ command ∈ commands, ∀ body, command.write client.table ≠ .ok body) ∨
      maxLength < requestSize client.table commands) (link : Link) :
    ∃ cause, (client.sendCommands commands).run link = .error cause link := by
  rcases packs_or_fails client commands with packs | fails
  · obtain ⟨bytes, written, fits⟩ := packs
    rw [length_of_writeMany_command written] at fits
    rcases unwritable with ⟨command, member, refused⟩ | long
    · obtain ⟨front, framed⟩ := exists_of_writeMany written member
      obtain ⟨body, encoded, -⟩ := Command.writeFramed_eq_ok_iff.mp framed
      exact absurd encoded (refused body)
    · omega
  · exact fails link

/-- What a client does once its request is written. -/
def awaitReplies (client : Client) : Exchange (List Reply) := do
  check (readReplies client.table (← client.readBody))

theorem run_sendCommands {packet : Packet} {request : Bytes}
    (packed : client.packetOf commands = .ok packet) (sent : packet.send = .ok request)
    (link : Link) :
    (client.sendCommands commands).run link =
      client.awaitReplies.run { link with sent := link.sent ++ request } := by
  rw [sendCommands, packed]
  show (client.sendPacket packet).run link = _
  rw [sendPacket, sent]
  rfl

theorem run_awaitReplies {link : Link} {body : Bytes} {left : Stream} {replies : List Reply}
    (read : link.incoming.readPacket client.maxPacketSize = (.ok (some body), left))
    (decoded : readReplies client.table body = .ok replies) :
    client.awaitReplies.run link = .ok replies { link with incoming := left } := by
  have brought : client.readBody.run link = .ok body { link with incoming := left } := by
    rw [EStateM.run, readBody, read]
  rw [awaitReplies, EStateM.run_bind, brought]
  simp only [decoded]
  rfl

/-- Whatever comes back, waiting for replies writes nothing. -/
theorem exists_run_awaitReplies (client : Client) (link : Link) :
    ∃ left, (∃ replies, client.awaitReplies.run link = .ok replies { link with incoming := left }) ∨
      ∃ cause, client.awaitReplies.run link = .error cause { link with incoming := left } := by
  cases read : link.incoming.readPacket client.maxPacketSize with
  | mk result left =>
    refine ⟨left, ?_⟩
    simp only [awaitReplies, bind, EStateM.bind, EStateM.run, readBody, read]
    cases result with
    | error cause => exact .inr ⟨cause, rfl⟩
    | ok body? =>
      cases body? with
      | none => exact .inr ⟨_, rfl⟩
      | some body =>
        simp only
        cases readReplies client.table body with
        | ok replies => exact .inl ⟨replies, rfl⟩
        | error cause => exact .inr ⟨cause, rfl⟩

end Client

/-- The packet of the commands holds a frame for each of them and nothing else. -/
theorem splitFrames_of_writeMany {assigned : AssignedOpcodes}
    (built : OpcodeTable.build assigned = .ok table)
    (known : ∀ command ∈ commands, command.operation ∈ Operation.all) {bytes : Bytes}
    (written : writeMany (Command.writeFramed table) commands = .ok bytes) :
    ∃ frames, splitFrames bytes = (frames, none) ∧
      frames.map (Command.ofFrame table) = commands.map .ok := by
  induction commands generalizing bytes with
  | nil =>
    obtain rfl := Except.ok.inj written
    exact ⟨[], splitFrames_nil, rfl⟩
  | cons first rest ih =>
    obtain ⟨head, tail, writtenFirst, writtenRest, rfl⟩ := writeMany_cons_eq_ok_iff.mp written
    obtain ⟨body, encoded, framed⟩ := Command.writeFramed_eq_ok_iff.mp writtenFirst
    obtain ⟨frames, split, commands⟩ := ih
      (fun command member => known command (List.mem_cons_of_mem _ member)) writtenRest
    obtain ⟨arguments, -, rfl⟩ := Command.write_eq_ok_iff.mp encoded
    let frame : Frame := ⟨table.opcodeOf first.operation, arguments⟩
    have fits := Command.fitsLengths_of_write encoded (length_le_of_writeFrame_eq_ok framed)
    have command : Command.ofFrame table frame = .ok first :=
      (Command.ofFrame_eq_ok_iff built).mpr ⟨known first List.mem_cons_self, fits, encoded⟩
    refine ⟨frame :: frames, ?_, ?_⟩
    · rw [splitFrames_of_writeFrame frame framed, split]
    · rw [List.map_cons, List.map_cons, command, commands]

end RemoteCrowd
