import RemoteCrowd.Proofs.OpcodeTable
import RemoteCrowd.Proofs.Packet

/-!
Packets of replies. Replies that are put into one packet come back from it as they were, up to
the words of a version's status: the opcode in each status tells whether a payload follows, and
of which kind.
-/

namespace RemoteCrowd

open Wire

variable {table : OpcodeTable} {assigned : AssignedOpcodes}

/-- The reply fits the opcode in its status. A status stands alone if it is not OK or its opcode
asks for nothing. The answer to a question, the version and the results of a step follow an OK
status under the opcode that asks for them. -/
inductive Reply.Fitting (table : OpcodeTable) : Reply → Prop where
  | status {head : Status}
    (bare : head.isOk = true → head.opcode ≠ table.opcodeOf .getVersion ∧
      head.opcode ≠ table.opcodeOf .simStep ∧
      ∀ domain, head.opcode ≠ table.opcodeOf (.get domain)) :
    Fitting table (.status head)
  | value {head : Status} {domain : Domain} (variableId : UInt8) (element : String)
    (content : Value) (good : head.isOk = true)
    (asked : head.opcode = table.opcodeOf (.get domain)) :
    Fitting table
      (.value head (table.opcodeOf (.getResponse domain)) variableId element content)
  | version {head : Status} (id : Int32) (text : String) (good : head.isOk = true)
    (asked : head.opcode = 0x00) : Fitting table (.version head id text)
  | simTime {head : Status} (data : Value) (good : head.isOk = true)
    (asked : head.opcode = 0x02) : Fitting table (.simTime head data)

theorem Operation.get_mem_all (domain : Domain) : .get domain ∈ all := by
  cases domain <;> decide

/-- Only the opcodes of the version, of a step and of questions announce a payload. -/
theorem exists_operation_of_hasPayload (built : OpcodeTable.build assigned = .ok table)
    {opcode : UInt8} (announced : hasPayload table opcode = true) :
    opcode = table.opcodeOf .getVersion ∨ opcode = table.opcodeOf .simStep ∨
      ∃ domain, opcode = table.opcodeOf (.get domain) := by
  unfold hasPayload at announced
  split at announced
  · next known => exact .inl ((OpcodeTable.lookup_eq_ok_iff built).mp known).2.symm
  · next known => exact .inr (.inl ((OpcodeTable.lookup_eq_ok_iff built).mp known).2.symm)
  · next operation _ _ known =>
    have same := ((OpcodeTable.lookup_eq_ok_iff built).mp known).2.symm
    cases operation with
    | get domain => exact .inr (.inr ⟨domain, same⟩)
    | _ => cases announced
  · cases announced

/-- A reply that fits its opcode is what clients expect there. -/
theorem Reply.Fitting.expected (built : OpcodeTable.build assigned = .ok table) {reply : Reply}
    (fitting : reply.Fitting table) : reply.Expected table := by
  have known : ∀ {operation : Operation} {opcode : UInt8}, operation ∈ Operation.all →
      opcode = table.opcodeOf operation → table.lookup opcode = .ok operation := by
    intro operation opcode member same
    subst same
    exact OpcodeTable.lookup_opcodeOf built member
  cases fitting with
  | @status head bare =>
    apply Expected.status
    by_contra announced
    obtain ⟨good, payload⟩ := Bool.and_eq_true_iff.mp (Bool.eq_true_of_not_eq_false announced)
    obtain ⟨notVersion, notStep, notGet⟩ := bare good
    rcases exists_operation_of_hasPayload built payload with same | same | ⟨domain, same⟩
    · exact notVersion same
    · exact notStep same
    · exact notGet domain same
  | @value head domain variableId element content good asked =>
    exact .value variableId element content good (known (Operation.get_mem_all domain) asked)
  | version id text good asked => exact .version id text good (known (by decide) asked)
  | simTime data good asked => exact .simTime data good (known (by decide) asked)

/-- Replies are sent in one packet behind its length, if they can all be written and are not too
long together. -/
theorem send_replies_eq_ok_iff {replies : List Reply} {bytes : Bytes} :
    replies.foldlM Packet.addReply {} >>= Packet.send = .ok bytes ↔
      ∃ frames, writeMany Reply.write replies = .ok frames ∧
        packetField + frames.length ≤ maxLength ∧
        bytes = bigEndian packetField (packetField + frames.length) ++ frames := by
  rw [Packet.foldlM_eq_extend (fun _ reply growing => Packet.addReply_eq growing reply) rfl,
    bind_assoc, bind_eq_ok_iff]
  exact exists_congr fun frames => and_congr_right fun _ => Packet.send_eq_ok_iff

/-- Announcing a reply takes no words that its status does not have. -/
theorem Reply.isAscii_announced {reply : Reply}
    (ascii : Text.isAscii reply.head.description = true) :
    Text.isAscii reply.announced.description = true := by
  cases reply with
  | version head id text =>
    by_cases good : head.isOk = true
    · rw [announced_version id text good]
      rfl
    · rw [announced, if_neg good]
      exact ascii
  | status | value | simTime => exact ascii

/-- Replies that fit their opcodes and can be written come back from the packet that they are sent
in. A version comes back with a status without words. The packet can be sent as long as its length
fits a length field, and no longer. -/
theorem readReplies_of_sent (built : OpcodeTable.build assigned = .ok table) (replies : List Reply)
    (fitting : ∀ reply ∈ replies, reply.Fitting table)
    (ascii : ∀ reply ∈ replies, Text.isAscii reply.head.description = true)
    (encode : ∀ reply ∈ replies, ∃ payload, reply.writePayload = .ok payload) :
    (replySize replies ≤ maxLength →
      ∃ bytes, replies.foldlM Packet.addReply {} >>= Packet.send = .ok bytes ∧
        bytes.length = replySize replies ∧
        readReplies table (bytes.drop packetField) = .ok (replies.map Reply.told)) ∧
    (maxLength < replySize replies →
      ∃ cause, replies.foldlM Packet.addReply {} >>= Packet.send = .error cause) := by
  constructor
  · intro fits
    have short : ∀ reply ∈ replies, reply.size ≤ maxLength :=
      fun reply member => (Reply.size_le_replySize member).trans fits
    obtain ⟨frames, written, -⟩ := exists_writeMany_reply
      (fun reply member => Reply.isAscii_announced (ascii reply member)) encode short
    have size := length_of_writeMany_reply written
    rw [← size] at fits
    have field : (bigEndian packetField (packetField + frames.length)).length = packetField :=
      length_bigEndian ..
    have expected : ∀ reply ∈ replies, reply.Expected table :=
      fun reply member => (fitting reply member).expected built
    refine ⟨_, send_replies_eq_ok_iff.mpr ⟨frames, written, fits, rfl⟩, ?_, ?_⟩
    · rw [List.length_append, field, size]
    · rw [List.drop_left' field]
      exact readReplies_of_writeMany expected written
  · intro long
    cases sent : replies.foldlM Packet.addReply {} >>= Packet.send with
    | error cause => exact ⟨cause, rfl⟩
    | ok bytes =>
      obtain ⟨frames, written, fits, -⟩ := send_replies_eq_ok_iff.mp sent
      rw [length_of_writeMany_reply written] at fits
      omega

private def visits : List Reply :=
  [.version ⟨0x00, .ok, "unheard"⟩ 1 "v", .status ⟨0xae, .err, "no scenario"⟩,
    .value ⟨0xae, .ok, "asked"⟩ 0xbe 0x42 "1" (.position2D .origin), .status (.ok 0x7F),
    .simTime ⟨0x02, .ok, "done"⟩ (.integer 0)]

/-- Replies of all kinds, one of them a version with words that nobody hears. -/
theorem readReplies_of_sent_visits :
    (∀ reply ∈ visits, reply.Fitting .standard) ∧
      (∀ reply ∈ visits, Text.isAscii reply.head.description = true) ∧
      (∀ reply ∈ visits, ∃ payload, reply.writePayload = .ok payload) ∧
      replySize visits ≤ maxLength ∧
      ∃ bytes, visits.foldlM Packet.addReply {} >>= Packet.send = .ok bytes ∧
        readReplies .standard (bytes.drop packetField) =
          .ok (.version (.ok 0x00) 1 "v" :: visits.tail) := by
  have built : OpcodeTable.build {} = .ok .standard := by rfl
  have fitting : ∀ reply ∈ visits, reply.Fitting .standard := by
    intro reply member
    simp only [visits, List.mem_cons, List.not_mem_nil, or_false] at member
    have asked : (Status.mk 0xae .ok "asked").opcode =
        OpcodeTable.standard.opcodeOf (.get .person) := by rfl
    rcases member with rfl | rfl | rfl | rfl | rfl
    · exact .version _ _ rfl rfl
    · exact .status fun good => absurd good (by decide)
    · exact .value _ _ _ rfl asked
    · exact .status fun _ => ⟨by decide, by decide, fun domain => by cases domain <;> decide⟩
    · exact .simTime _ rfl rfl
  have ascii : ∀ reply ∈ visits, Text.isAscii reply.head.description = true := by decide
  have encode : ∀ reply ∈ visits, ∃ payload, reply.writePayload = .ok payload := by
    intro reply member
    simp only [visits, List.mem_cons, List.not_mem_nil, or_false] at member
    rcases member with rfl | rfl | rfl | rfl | rfl <;> exact ⟨_, rfl⟩
  have fits : replySize visits ≤ maxLength := by decide +kernel
  obtain ⟨bytes, sent, -, read⟩ :=
    (readReplies_of_sent built visits fitting ascii encode).1 fits
  exact ⟨fitting, ascii, encode, fits, bytes, sent, read⟩

end RemoteCrowd
