import RemoteCrowd.Proofs.CommandCodec
import RemoteCrowd.Proofs.Wire.Framing
import RemoteCrowd.Reply.Codec

/-!
Replies on the wire. A reply that answers its opcode in the shape that clients expect there
is read back from its frames, whatever stands behind them, and so is a whole list of such
replies.
-/

namespace RemoteCrowd

open Wire

theorem StatusCode.ofId_eq_ok_iff {id : UInt8} {code : StatusCode} :
    StatusCode.ofId id = .ok code ↔ code.id = id := by
  have complete : ∀ a, a ∈ StatusCode.all := by
    intro a
    cases a <;> decide
  have different : ∀ a b : StatusCode, a.id = b.id → a = b := by
    intro a b
    cases a <;> cases b <;> decide
  rw [← find?_key_eq_some_iff complete different, StatusCode.ofId]
  split
  · next found => rw [found, Except.ok.injEq, Option.some.injEq]
  · next missing => simp [missing]

theorem Status.write_eq_ok_iff {status : Status} {body : Bytes} :
    status.write = .ok body ↔
      ∃ text, writeString status.description = .ok text ∧
        body = status.opcode :: status.code.id :: text := by
  simp only [Status.write, bind_eq_ok_iff, pure_eq_ok_iff, eq_comm (a := body)]

theorem decodePayload_eq_ok_iff {α : Type} {decoder : Decoder α} {payload : Bytes} {value : α} :
    decodePayload decoder payload = .ok value ↔ ∃ rest, decoder.run payload = .ok value rest := by
  unfold decodePayload
  split
  · next given rest read => simp [read]
  · next cause rest failed => simp [failed]

theorem run_readStatusPayload_eq_ok {opcode : UInt8} {payload rest : Bytes} {status : Status} :
    (readStatusPayload opcode).run payload = .ok status rest ↔
      status.write = .ok (opcode :: payload) ∧ rest = [] := by
  rw [Status.write_eq_ok_iff]
  constructor
  · intro read
    obtain ⟨id, later, first, next⟩ := run_bind_eq_ok.mp read
    obtain ⟨code, _, second, last⟩ := run_bind_eq_ok.mp next
    obtain ⟨description, _, third, done⟩ := run_bind_eq_ok.mp last
    obtain ⟨_, _, ended, made⟩ := run_bind_eq_ok.mp done
    obtain rfl := run_readUInt8Named_eq_ok.mp first
    obtain ⟨known, rfl⟩ := run_orThrow_eq_ok.mp second
    obtain rfl := StatusCode.ofId_eq_ok_iff.mp known
    obtain ⟨text, written, rfl⟩ := (inverts_string ..).mp third
    obtain ⟨rfl, rfl⟩ := run_expectEnd_eq_ok.mp ended
    obtain ⟨rfl, rfl⟩ := EStateM.Result.ok.inj made
    rw [List.append_nil]
    exact ⟨⟨text, written, rfl⟩, rfl⟩
  · intro written
    obtain ⟨⟨text, written, same⟩, rfl⟩ := written
    obtain ⟨rfl, rfl⟩ := List.cons.inj same
    have described := (inverts_string text [] _).mpr ⟨text, written, (List.append_nil _).symm⟩
    refine run_bind_eq_ok.mpr ⟨_, text, run_readUInt8Named_eq_ok.mpr rfl, ?_⟩
    refine run_bind_eq_ok.mpr ⟨status.code, text, run_orThrow_eq_ok.mpr ⟨?_, rfl⟩, ?_⟩
    · exact StatusCode.ofId_eq_ok_iff.mpr rfl
    · exact run_bind_eq_ok.mpr ⟨_, _, described, run_bind_eq_ok.mpr ⟨(), [], rfl, rfl⟩⟩

/-- A status is read from exactly the frame that it is written in. -/
theorem Status.ofFrame_eq_ok_iff {frame : Frame} {status : Status} :
    Status.ofFrame frame = .ok status ↔ status.write = .ok frame.body := by
  rw [Status.ofFrame, decodePayload_eq_ok_iff]
  constructor
  · intro read
    obtain ⟨rest, read⟩ := read
    exact (run_readStatusPayload_eq_ok.mp read).1
  · intro written
    exact ⟨[], run_readStatusPayload_eq_ok.mpr ⟨written, rfl⟩⟩

namespace Reply

/-- The frames of a reply: its status, and behind it the payload where there is one. -/
def write (reply : Reply) : Except Error Bytes := do
  let payload ← reply.writePayload
  let front ← writeFrame (← reply.announced.write)
  match payload with
  | none => return front
  | some body => return front ++ (← writeFrame body)

/-- The reply as clients are told it: with the status that was announced. -/
def told : Reply → Reply
  | version head id text => version (version head id text).announced id text
  | reply => reply

/-- The reply has the shape that clients expect behind its status: a payload where the status
is OK and the operation has one, of the kind that belongs to the operation, and else none. -/
inductive Expected (table : OpcodeTable) : Reply → Prop where
  | status {head : Status} (bare : (head.isOk && hasPayload table head.opcode) = false) :
    Expected table (.status head)
  | value {head : Status} {domain : Domain} (variableId : UInt8) (element : String)
    (content : Value) (good : head.isOk = true)
    (known : table.lookup head.opcode = .ok (.get domain)) :
    Expected table
      (.value head (table.opcodeOf (.getResponse domain)) variableId element content)
  | version {head : Status} (id : Int32) (text : String) (good : head.isOk = true)
    (known : table.lookup head.opcode = .ok .getVersion) :
    Expected table (.version head id text)
  | simTime {head : Status} (data : Value) (good : head.isOk = true)
    (known : table.lookup head.opcode = .ok .simStep) :
    Expected table (.simTime head data)

variable {table : OpcodeTable} {reply : Reply}

theorem write_eq_ok_iff {front : Bytes} :
    reply.write = .ok front ↔
      ∃ payload status first, reply.writePayload = .ok payload ∧
        reply.announced.write = .ok status ∧ writeFrame status = .ok first ∧
        match payload with
        | none => front = first
        | some body => ∃ second, writeFrame body = .ok second ∧ front = first ++ second := by
  simp only [write, bind_eq_ok_iff]
  constructor
  · intro written
    obtain ⟨payload, encoded, status, announced, first, framed, last⟩ := written
    refine ⟨payload, status, first, encoded, announced, framed, ?_⟩
    cases payload with
    | none => exact (pure_eq_ok_iff.mp last).symm
    | some body =>
      obtain ⟨second, framed', made⟩ := bind_eq_ok_iff.mp last
      exact ⟨second, framed', (pure_eq_ok_iff.mp made).symm⟩
  · intro written
    obtain ⟨payload, status, first, encoded, announced, framed, last⟩ := written
    refine ⟨payload, encoded, status, announced, first, framed, ?_⟩
    cases payload with
    | none => exact pure_eq_ok_iff.mpr last.symm
    | some body =>
      obtain ⟨second, framed', made⟩ := last
      exact bind_eq_ok_iff.mpr ⟨second, framed', pure_eq_ok_iff.mpr made.symm⟩

theorem announced_version {head : Status} (id : Int32) (text : String)
    (good : head.isOk = true) : (version head id text).announced = .ok head.opcode := by
  simp only [announced, good, ↓reduceIte]

theorem exists_status_frame {status : Status} {body front : Bytes} (rest : Bytes)
    (written : status.write = .ok body) (framed : writeFrame body = .ok front) :
    ∃ frame, readFrame.run (front ++ rest) = .ok frame rest ∧
      Status.ofFrame frame = .ok status := by
  obtain ⟨text, -, rfl⟩ := Status.write_eq_ok_iff.mp written
  let frame : Frame := ⟨status.opcode, status.code.id :: text⟩
  exact ⟨frame, run_readFrame_of_writeFrame framed rfl, Status.ofFrame_eq_ok_iff.mpr written⟩

theorem run_readVersion {status : Status} {id : Int32} {text : String} {words : Bytes}
    (written : writeString text = .ok words) :
    (readAll (readVersion status)).run (writeInt32 id ++ words) =
      .ok (.version status id text) [] := by
  have accepts := accepts_int32.bind fun id => inverts_string.bind fun text =>
    .pure (version status id text)
  refine (run_toEnd_eq_ok accepts).mpr ⟨?_, rfl⟩
  exact ⟨id, _, words, rfl, ⟨text, words, [], written, ⟨rfl, rfl⟩, (List.append_nil _).symm⟩, rfl⟩

theorem run_readSimTime {status : Status} {data : Value} {body : Bytes}
    (fits : data.FitsLengths) (written : data.write = .ok body) :
    (readAll (readSimTime status)).run body = .ok (.simTime status data) [] := by
  have accepts := accepts_tagged.bind fun data => .pure (simTime status data)
  refine (run_toEnd_eq_ok accepts).mpr ⟨?_, rfl⟩
  exact ⟨data, body, [], ⟨fits, written⟩, ⟨rfl, rfl⟩, (List.append_nil _).symm⟩

theorem run_readValueReply {status : Status} {responseId variableId : UInt8} {element : String}
    {content : Value} {name body : Bytes} (named : writeString element = .ok name)
    (fits : content.FitsLengths) (written : content.write = .ok body) :
    (readAll (readValueReply status responseId)).run (variableId :: name ++ body) =
      .ok (.value status responseId variableId element content) [] := by
  have accepts := accepts_uint8.bind fun variableId => inverts_string.bind fun element =>
    accepts_tagged.bind fun content =>
      .pure (value status responseId variableId element content)
  refine (run_toEnd_eq_ok accepts).mpr ⟨?_, rfl⟩
  exact ⟨variableId, _, name ++ body, rfl, ⟨element, name, body, named, ⟨content, body, [],
    ⟨fits, written⟩, ⟨rfl, rfl⟩, (List.append_nil _).symm⟩, rfl⟩, rfl⟩

/-- What clients make of a status and the payload behind it: no payload is announced and the
status is all there is, or one is announced and it completes the reply. -/
def CompletedBy (table : OpcodeTable) (reply : Reply) : Option Bytes → Prop
  | none =>
    (reply.announced.isOk && hasPayload table reply.announced.opcode) = false ∧
      reply.told = .status reply.announced
  | some body =>
    (reply.announced.isOk && hasPayload table reply.announced.opcode) = true ∧
      ∃ frame : Frame, body = frame.body ∧
        ofPayload table reply.announced frame = .ok reply.told

/-- A payload that is not too long for a frame has no length in it that does not fit. -/
theorem Expected.completedBy (expected : reply.Expected table) {payload : Option Bytes}
    (encoded : reply.writePayload = .ok payload)
    (short : ∀ body ∈ payload, body.length ≤ maxLength) : reply.CompletedBy table payload := by
  cases expected with
  | status bare =>
    obtain rfl := Except.ok.inj encoded
    exact ⟨bare, rfl⟩
  | @value head domain variableId element content good known =>
    simp only [writePayload, bind_eq_ok_iff, pure_eq_ok_iff] at encoded
    obtain ⟨name, named, body, written, rfl⟩ := encoded
    have fits := content.fitsLengths_of_write written (by
      have short := short _ rfl
      simp only [List.length_cons, List.length_append] at short
      omega)
    simp only [CompletedBy, announced, Reply.head, hasPayload, ofPayload, good, known]
    refine ⟨rfl, ⟨table.opcodeOf (.getResponse domain), variableId :: name ++ body⟩, rfl, ?_⟩
    refine (if_pos rfl).trans ?_
    exact decodePayload_eq_ok_iff.mpr ⟨[], run_readValueReply named fits written⟩
  | @version head id text good known =>
    simp only [writePayload, bind_eq_ok_iff, pure_eq_ok_iff] at encoded
    obtain ⟨words, written, rfl⟩ := encoded
    simp only [CompletedBy, told, announced_version id text good, Status.ok, hasPayload,
      ofPayload, known]
    refine ⟨rfl, ⟨versionPayloadId, writeInt32 id ++ words⟩, rfl, ?_⟩
    exact decodePayload_eq_ok_iff.mpr ⟨[], run_readVersion written⟩
  | @simTime head data good known =>
    simp only [writePayload, bind_eq_ok_iff, pure_eq_ok_iff] at encoded
    obtain ⟨body, written, rfl⟩ := encoded
    have fits := data.fitsLengths_of_write written (by
      have short := short _ rfl
      rw [List.length_cons] at short
      omega)
    simp only [CompletedBy, announced, Reply.head, hasPayload, ofPayload, good, known]
    refine ⟨rfl, ⟨simTimePayloadId, body⟩, rfl, ?_⟩
    exact decodePayload_eq_ok_iff.mpr ⟨[], run_readSimTime fits written⟩

/-- An expected reply is read back from its frames, whatever stands behind them. -/
theorem run_readReply (expected : reply.Expected table) {front : Bytes} (rest : Bytes)
    (written : reply.write = .ok front) :
    (readReply table).run (front ++ rest) = .ok reply.told rest := by
  obtain ⟨payload, status, first, encoded, announced, framed, last⟩ := write_eq_ok_iff.mp written
  have short : ∀ body ∈ payload, body.length ≤ maxLength := by
    rintro body ⟨⟩
    obtain ⟨second, framed', -⟩ := last
    exact length_le_of_writeFrame_eq_ok framed'
  have completed := expected.completedBy encoded short
  cases payload with
  | none =>
    obtain ⟨bare, same⟩ := completed
    subst last
    obtain ⟨frame, read, made⟩ := exists_status_frame rest announced framed
    refine run_bind_eq_ok.mpr ⟨frame, rest, read, ?_⟩
    refine run_bind_eq_ok.mpr ⟨reply.announced, rest, run_orThrow_eq_ok.mpr ⟨made, rfl⟩, ?_⟩
    rw [bare, same]
    rfl
  | some body =>
    obtain ⟨follows, payloadFrame, rfl, told⟩ := completed
    obtain ⟨second, framed', rfl⟩ := last
    obtain ⟨frame, read, made⟩ := exists_status_frame (second ++ rest) announced framed
    rw [List.append_assoc]
    refine run_bind_eq_ok.mpr ⟨frame, second ++ rest, read, ?_⟩
    refine run_bind_eq_ok.mpr ⟨reply.announced, _, run_orThrow_eq_ok.mpr ⟨made, rfl⟩, ?_⟩
    rw [follows]
    refine run_bind_eq_ok.mpr ⟨payloadFrame, rest, run_readFrame_of_writeFrame framed' rfl, ?_⟩
    exact run_orThrow_eq_ok.mpr ⟨told, rfl⟩

/-- The frames of a reply are not empty. -/
theorem ne_nil_of_write_eq_ok {front : Bytes} (written : reply.write = .ok front) : front ≠ [] := by
  obtain ⟨payload, status, first, -, -, framed, last⟩ := write_eq_ok_iff.mp written
  have nonempty := ne_nil_of_writeFrame_eq_ok framed
  cases payload with
  | none =>
    subst last
    exact nonempty
  | some body =>
    obtain ⟨second, -, rfl⟩ := last
    exact List.append_ne_nil_of_left_ne_nil nonempty second

end Reply

/-- A list of expected replies is read back from the frames of its replies. -/
theorem readReplies_of_writeMany {table : OpcodeTable} {replies : List Reply} {bytes : Bytes}
    (expected : ∀ reply ∈ replies, reply.Expected table)
    (written : writeMany Reply.write replies = .ok bytes) :
    readReplies table bytes = .ok (replies.map Reply.told) := by
  induction replies generalizing bytes with
  | nil =>
    obtain rfl := Except.ok.inj written
    rw [readReplies]
    rfl
  | cons first rest ih =>
    obtain ⟨head, tail, writtenHead, writtenTail, rfl⟩ := writeMany_cons_eq_ok_iff.mp written
    have read := Reply.run_readReply (expected first List.mem_cons_self) tail writtenHead
    have later := ih (fun reply member => expected reply (List.mem_cons_of_mem _ member)) writtenTail
    have nonempty : (head ++ tail).isEmpty = false := by
      simp [Reply.ne_nil_of_write_eq_ok writtenHead]
    rw [readReplies, nonempty]
    simp only [Bool.false_eq_true, ↓reduceIte]
    split
    · next failed => cases read.symm.trans failed
    · next reply left again =>
      obtain ⟨rfl, rfl⟩ := EStateM.Result.ok.inj (read.symm.trans again)
      rw [later]
      rfl

/-- The bytes that a status takes in a packet, with the length field of its frame. -/
def Status.size (status : Status) : Nat := frameSize (status.description.length + 6)

/-- The bytes that a payload takes in a packet, with the length field of its frame. -/
def Reply.payloadSize (reply : Reply) : Nat :=
  match reply.writePayload with
  | .ok (some body) => frameSize body.length
  | _ => 0

/-- The bytes that a reply takes in a packet. -/
def Reply.size (reply : Reply) : Nat := reply.announced.size + reply.payloadSize

/-- The length of the packet of several replies. -/
def replySize (replies : List Reply) : Nat := packetField + (replies.map Reply.size).sum

theorem Reply.size_le_replySize {replies : List Reply} {reply : Reply} (member : reply ∈ replies) :
    reply.size ≤ replySize replies :=
  (List.le_sum_of_mem (List.mem_map_of_mem member)).trans (Nat.le_add_left ..)

theorem Status.length_of_write_eq_ok {status : Status} {body : Bytes}
    (written : status.write = .ok body) : body.length = status.description.length + 6 := by
  obtain ⟨text, described, rfl⟩ := Status.write_eq_ok_iff.mp written
  obtain ⟨-, -, rfl⟩ := writeString_eq_ok_iff.mp described
  simp only [List.length_cons, List.length_append, length_bigEndian, length_asciiBytes]
  omega

/-- A status with an ASCII description can be written where it fits a length field. -/
theorem Status.exists_write {status : Status} (ascii : Text.isAscii status.description = true)
    (fits : status.size ≤ maxLength) :
    ∃ body front, status.write = .ok body ∧ writeFrame body = .ok front ∧
      front.length = status.size := by
  have larger : status.description.length + 6 ≤ status.size := by
    unfold size frameSize
    split <;> omega
  have text := writeString_eq_ok_iff.mpr ⟨ascii, by omega, rfl⟩
  have written := Status.write_eq_ok_iff.mpr ⟨_, text, rfl⟩
  have length := Status.length_of_write_eq_ok written
  rw [size, ← length] at fits
  obtain ⟨front, framed, same⟩ := exists_writeFrame fits
  rw [length] at same
  exact ⟨_, front, written, framed, same⟩

/-- A reply whose texts have an encoding can be written where it fits a length field. -/
theorem Reply.exists_write {reply : Reply} {payload : Option Bytes}
    (ascii : Text.isAscii reply.announced.description = true)
    (encoded : reply.writePayload = .ok payload) (fits : reply.size ≤ maxLength) :
    ∃ front, reply.write = .ok front ∧ front.length = reply.size := by
  unfold size payloadSize at fits ⊢
  rw [encoded] at fits ⊢
  obtain ⟨status, first, announced, framed, length⟩ := Status.exists_write ascii (by omega)
  cases payload with
  | none => exact ⟨first, write_eq_ok_iff.mpr ⟨_, status, first, encoded, announced, framed, rfl⟩, length⟩
  | some body =>
    simp only at fits ⊢
    have fits' : frameSize body.length ≤ maxLength := by omega
    obtain ⟨second, framed', length'⟩ := exists_writeFrame fits'
    refine ⟨first ++ second, write_eq_ok_iff.mpr
      ⟨_, status, first, encoded, announced, framed, second, framed', rfl⟩, ?_⟩
    rw [List.length_append, length, length']

theorem exists_writeMany_reply {replies : List Reply}
    (ascii : ∀ reply ∈ replies, Text.isAscii reply.announced.description = true)
    (encoded : ∀ reply ∈ replies, ∃ payload, reply.writePayload = .ok payload)
    (fits : ∀ reply ∈ replies, reply.size ≤ maxLength) :
    ∃ bytes, writeMany Reply.write replies = .ok bytes ∧
      bytes.length = (replies.map Reply.size).sum := by
  apply exists_writeMany
  intro reply member
  obtain ⟨payload, encoded⟩ := encoded reply member
  exact Reply.exists_write (ascii reply member) encoded (fits reply member)

theorem Reply.length_of_write_eq_ok {reply : Reply} {front : Bytes}
    (written : reply.write = .ok front) : front.length = reply.size := by
  obtain ⟨payload, status, first, encoded, announced, framed, last⟩ := write_eq_ok_iff.mp written
  have length : first.length = reply.announced.size := by
    rw [length_of_writeFrame_eq_ok framed, Status.length_of_write_eq_ok announced, Status.size]
  rw [size, payloadSize, encoded]
  cases payload with
  | none => rw [last, length, Nat.add_zero]
  | some body =>
    obtain ⟨second, framed', rfl⟩ := last
    rw [List.length_append, length, length_of_writeFrame_eq_ok framed']

theorem length_of_writeMany_reply {replies : List Reply} {bytes : Bytes}
    (written : writeMany Reply.write replies = .ok bytes) :
    packetField + bytes.length = replySize replies := by
  rw [replySize, length_of_writeMany (fun _ _ => Reply.length_of_write_eq_ok) written]

end RemoteCrowd
