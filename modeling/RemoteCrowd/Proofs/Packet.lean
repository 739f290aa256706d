import RemoteCrowd.Proofs.ReplyCodec
import RemoteCrowd.Proofs.Unwritable

/-!
Packets under construction. An edit of a growing packet either appends the frames that it
stands for, or fails and leaves the packet as it was; a finalized packet stays as it is. So the
frames in a packet are those of the edits that succeeded, and the length in front of them is
right whenever the packet is sent.
-/

namespace RemoteCrowd

open Wire

namespace Reply

/-- A status alone is one frame. -/
theorem write_status (head : Status) : (status head).write = (do writeFrame (← head.write)) :=
  congrArg (head.write >>= ·) (funext fun body => bind_pure (writeFrame body))

/-- A reply is its status, and the frame of its payload where it has one. -/
theorem write_of_payload {reply : Reply} {payload : Option Bytes}
    (encoded : reply.writePayload = .ok payload) :
    reply.write = (do
      let first ← (status reply.announced).write
      match payload with
      | none => return first
      | some body => return first ++ (← writeFrame body)) := by
  rw [write_status, bind_assoc, write, encoded]
  rfl

theorem write_of_error {reply : Reply} {cause : Error}
    (refused : reply.writePayload = .error cause) : reply.write = .error cause := by
  rw [write, refused]
  rfl

theorem failsOnly_write (reply : Reply) : FailsOnly Error.IsUnwritable reply.write := by
  have frame (body : Bytes) : FailsOnly Error.IsUnwritable (writeFrame body) :=
    (failsOnly_writeFrame body).mono fun _ => .inl
  refine (failsOnly_writePayload reply).bind fun payload => ?_
  refine (Status.failsOnly_write _).bind fun status => (frame status).bind fun first => ?_
  cases payload with
  | none => exact .ok _
  | some body => exact (frame body).bind fun _ => .ok _

end Reply

/-- What a reply leaves in a packet that does not take it: its status, where it is the frame of
the payload that is too long for a length field. -/
def Reply.remains (reply : Reply) : Bytes :=
  match reply.writePayload, (status reply.announced).write with
  | .ok (some body), .ok first => if frameSize body.length ≤ maxLength then [] else first
  | _, _ => []

/-- A reply whose payload fits a length field leaves nothing. -/
theorem Reply.remains_eq_nil {reply : Reply} (fits : reply.payloadSize ≤ maxLength) :
    reply.remains = [] := by
  unfold remains
  split
  · next body first encoded _ =>
    rw [payloadSize, encoded] at fits
    exact if_pos fits
  · rfl

namespace Packet

variable {packet after : Packet}

/-- The packet behind what is put into it, be it that it could be written or not. -/
def appended (packet : Packet) : Except Error Bytes → EStateM.Result Error Packet Unit
  | .ok front => .ok () (packet.extend front)
  | .error cause => .error cause packet

theorem run_given {α : Type} (result : Except Error α) :
    (given result).run packet =
      match result with
      | .ok value => .ok value packet
      | .error cause => .error cause packet := by
  cases result with
  | ok value => rfl
  | error cause => rfl

theorem run_refuseFinalized (growing : packet.finalized = false) :
    refuseFinalized.run packet = .ok () packet := by
  simp only [refuseFinalized, EStateM.run_bind, EStateM.run_get, growing, Bool.false_eq_true,
    ↓reduceIte, EStateM.run_pure]

theorem run_refuseFinalized_of_finalized (closed : packet.finalized = true) :
    refuseFinalized.run packet = .error .packetFinalized packet := by
  simp only [refuseFinalized, EStateM.run_bind, EStateM.run_get, closed, ↓reduceIte,
    EStateM.run_throw]

theorem run_putFrameLength (length : Nat) :
    (putFrameLength length).run packet = packet.appended (writeFrameLength length) := by
  unfold putFrameLength writeFrameLength
  split
  · rfl
  · split
    · rfl
    · rw [EStateM.run_bind, run_given]
      cases writeLength (length + 4) with
      | error cause => rfl
      | ok field =>
        show EStateM.Result.ok () ((packet.extend [0]).extend field) = _
        rw [extend_extend]
        rfl

/-- A frame is put whole, or not at all. -/
theorem run_putFrame (body : Bytes) :
    (putFrame body).run packet = packet.appended (writeFrame body) := by
  rw [putFrame, EStateM.run_bind, run_putFrameLength, writeFrame]
  cases writeFrameLength (body.length + 1) with
  | error cause => rfl
  | ok field => exact congrArg _ (extend_extend packet field body)

theorem run_addBody (growing : packet.finalized = false) (body : Bytes) :
    (addBody body).run packet = packet.appended (writeFrame body) := by
  rw [addBody, EStateM.run_bind, run_refuseFinalized growing]
  exact run_putFrame body

/-- A status alone is appended as the frames of the reply that it makes. -/
theorem run_addStatus (growing : packet.finalized = false) (head : Status) :
    (addStatus head).run packet = packet.appended (Reply.status head).write := by
  rw [addStatus, EStateM.run_bind, run_refuseFinalized growing, Reply.write_status]
  show (given head.write >>= putFrame).run packet = _
  rw [EStateM.run_bind, run_given]
  cases head.write with
  | error cause => rfl
  | ok body => exact run_putFrame body

/-- A reply is appended as its frames. A reply that cannot be written leaves the packet as it was,
but for the status in front of a payload that is too long. -/
theorem run_appendReply (growing : packet.finalized = false) (reply : Reply) :
    (appendReply reply).run packet =
      match reply.write with
      | .ok front => .ok () (packet.extend front)
      | .error cause => .error cause (packet.extend reply.remains) := by
  rw [appendReply, EStateM.run_bind, run_refuseFinalized growing]
  simp only [EStateM.run_bind, run_given, Reply.remains]
  cases encoded : reply.writePayload with
  | error cause => simp only [Reply.write_of_error encoded, extend_nil]
  | ok payload =>
    rw [Reply.write_of_payload encoded]
    simp only [run_addStatus growing]
    cases (Reply.status reply.announced).write with
    | error cause =>
      cases payload with
      | none => exact congrArg _ (extend_nil packet).symm
      | some body => exact congrArg _ (extend_nil packet).symm
    | ok first =>
      cases payload with
      | none => rfl
      | some body =>
        have growing' : (packet.extend first).finalized = false := growing
        simp only [appended, run_addBody growing']
        by_cases fits : frameSize body.length ≤ maxLength
        · obtain ⟨second, framed, -⟩ := exists_writeFrame fits
          rw [framed]
          exact congrArg _ (extend_extend packet first second)
        · cases framed : writeFrame body with
          | error cause =>
            rw [if_neg fits]
            rfl
          | ok second => exact absurd (writeFrame_eq_ok_iff.mp framed).1 fits

/-- Appending one thing after another appends everything that is written for them. -/
theorem foldlM_eq_extend {α : Type} {step : Packet → α → Except Error Packet}
    {write : α → Except Error Bytes}
    (each : ∀ packet item, packet.finalized = false →
      step packet item = (do return packet.extend (← write item)))
    (growing : packet.finalized = false) (items : List α) :
    items.foldlM step packet = (do return packet.extend (← writeMany write items)) := by
  induction items generalizing packet with
  | nil =>
    show Except.ok packet = Except.ok (packet.extend [])
    rw [extend_nil]
  | cons first rest ih =>
    rw [List.foldlM_cons, each packet first growing, writeMany]
    cases write first with
    | error cause => rfl
    | ok head =>
      have growing' : (packet.extend head).finalized = false := growing
      show rest.foldlM step (packet.extend head) = _
      rw [ih growing']
      cases writeMany write rest with
      | error cause => rfl
      | ok tail => exact congrArg Except.ok (extend_extend packet head tail)

theorem grow_addBody (growing : packet.finalized = false) (body : Bytes) :
    packet.grow (addBody body) = (do return packet.extend (← writeFrame body)) := by
  rw [grow, run_addBody growing]
  cases writeFrame body <;> rfl

theorem grow_addStatus (growing : packet.finalized = false) (head : Status) :
    packet.grow (addStatus head) = (do return packet.extend (← (Reply.status head).write)) := by
  rw [grow, run_addStatus growing]
  cases (Reply.status head).write <;> rfl

theorem addReply_eq (growing : packet.finalized = false) (reply : Reply) :
    packet.addReply reply = (do return packet.extend (← reply.write)) := by
  rw [addReply, grow, run_appendReply growing]
  cases reply.write <;> rfl

@[simp] theorem length_bytes (packet : Packet) : packet.bytes.length = packet.length := by
  rw [bytes, List.length_append, writeInt32, length_bigEndian]
  rfl

@[simp] theorem drop_bytes (packet : Packet) :
    packet.bytes.drop packetField = packet.frames := by
  have field : (writeInt32 packet.lengthField).length = packetField := length_bigEndian ..
  rw [bytes, List.drop_left' field]

theorem packetLength_eq_ok_iff {total : Nat} {field : Int32} :
    packetLength total = .ok field ↔ total ≤ maxLength ∧ field = Int32.ofNat total := by
  unfold packetLength
  by_cases fits : total ≤ maxLength
  · simp [fits, eq_comm]
  · simp [fits]

/-- The error of a packet that is too long for its length field. -/
def overlong (packet : Packet) : Error := .capacity "packet" packet.length maxLength

theorem run_fillLength (pending : packet.placeholder = true) :
    fillLength.run packet =
      if packet.length ≤ maxLength then
        .ok () { packet with lengthField := Int32.ofNat packet.length, placeholder := false }
      else .error packet.overlong packet := by
  simp only [fillLength, EStateM.run_bind, EStateM.run_get, pending, ↓reduceIte, run_given,
    packetLength]
  by_cases fits : packet.length ≤ maxLength
  · simp only [if_pos fits]
    rfl
  · simp only [if_neg fits]
    rfl

/-- The length field is a placeholder as long as the packet grows, and after that it holds the
length of the packet. -/
structure Sound (packet : Packet) : Prop where
  placeholder_eq : packet.placeholder = !packet.finalized
  counts : packet.finalized = true →
    packet.length ≤ maxLength ∧ packet.lengthField = Int32.ofNat packet.length

namespace Sound

theorem created : ({} : Packet).Sound where
  placeholder_eq := rfl
  counts := by simp

theorem extend (sound : packet.Sound) (growing : packet.finalized = false) (front : Bytes) :
    (packet.extend front).Sound where
  placeholder_eq := sound.placeholder_eq
  counts := by simp [growing]

theorem bytes_eq (sound : packet.Sound) (closed : packet.finalized = true) :
    packet.bytes = bigEndian packetField packet.length ++ packet.frames := by
  obtain ⟨fits, counted⟩ := sound.counts closed
  rw [bytes, counted, writeInt32_ofNat fits, packetField]

/-- A packet is sent behind its length, finalized or not, unless it is too long for that. -/
theorem send_eq (sound : packet.Sound) :
    packet.send =
      if packet.length ≤ maxLength then
        .ok (bigEndian packetField packet.length ++ packet.frames)
      else .error packet.overlong := by
  by_cases closed : packet.finalized = true
  · obtain ⟨fits, -⟩ := sound.counts closed
    rw [send, if_pos closed, sound.bytes_eq closed, if_pos fits]
  · have pending : packet.placeholder = true := by
      rw [sound.placeholder_eq, Bool.eq_false_of_not_eq_true closed, Bool.not_false]
    rw [send, if_neg closed, grow, run_fillLength pending]
    by_cases fits : packet.length ≤ maxLength
    · simp only [if_pos fits]
      show Except.ok (bytes _) = _
      rw [bytes, writeInt32_ofNat fits, packetField]
    · simp only [if_neg fits]
      rfl

theorem send_eq_ok_iff (sound : packet.Sound) {bytes : Bytes} :
    packet.send = .ok bytes ↔
      packet.length ≤ maxLength ∧ bytes = bigEndian packetField packet.length ++ packet.frames := by
  rw [sound.send_eq]
  split
  · next fits => rw [Except.ok.injEq, and_iff_right fits, eq_comm]
  · next long => exact iff_of_false nofun fun sent => long sent.1

end Sound

/-- A packet that only collected frames is sent with its length in front. -/
theorem send_eq_ok_iff {frames bytes : Bytes} :
    Packet.send { frames } = .ok bytes ↔
      packetField + frames.length ≤ maxLength ∧
        bytes = bigEndian packetField (packetField + frames.length) ++ frames :=
  (Sound.created.extend rfl frames).send_eq_ok_iff

namespace Edit

/-- The frames that an edit stands for. -/
def write : Edit → Except Error Bytes
  | .okStatus opcode => (Reply.status (.ok opcode)).write
  | .errStatus opcode description => (Reply.status (.err opcode description)).write
  | .status head => (Reply.status head).write
  | .body content => writeFrame content
  | .reply answer => answer.write
  | .value opcode responseId variableId element content =>
    (Reply.value (.ok opcode) responseId variableId element content).write
  | .finalize => .ok []

/-- The bytes that the payload of an edit takes in a packet, where it puts one behind a status. -/
def payloadSize : Edit → Nat
  | .reply answer => answer.payloadSize
  | .value opcode responseId variableId element content =>
    (Reply.value (.ok opcode) responseId variableId element content).payloadSize
  | _ => 0

/-- What an edit that cannot be written leaves in the packet. -/
def remains : Edit → Bytes
  | .reply answer => answer.remains
  | .value opcode responseId variableId element content =>
    (Reply.value (.ok opcode) responseId variableId element content).remains
  | _ => []

variable {edit : Edit}

theorem remains_eq_nil (fits : edit.payloadSize ≤ maxLength) : edit.remains = [] := by
  cases edit with
  | reply | value => exact Reply.remains_eq_nil fits
  | _ => rfl

theorem run_perform_of_finalized (closed : packet.finalized = true) (appends : edit ≠ .finalize) :
    edit.perform.run packet = .error .packetFinalized packet := by
  have refused := run_refuseFinalized_of_finalized closed
  cases edit with
  | finalize => exact absurd rfl appends
  | _ =>
    show (refuseFinalized >>= _).run packet = _
    rw [EStateM.run_bind, refused]

/-- A packet that still grows takes an edit that can be written, and what remains of another. -/
theorem run_perform (growing : packet.finalized = false) (appends : edit ≠ .finalize) :
    edit.perform.run packet =
      match edit.write with
      | .ok front => .ok () (packet.extend front)
      | .error cause => .error cause (packet.extend edit.remains) := by
  have plain : ∀ result, packet.appended result =
      match result with
      | .ok front => .ok () (packet.extend front)
      | .error cause => .error cause (packet.extend []) := by
    intro result
    rw [extend_nil]
    cases result <;> rfl
  cases edit with
  | okStatus | errStatus | status => exact (run_addStatus growing _).trans (plain _)
  | body content => exact (run_addBody growing content).trans (plain _)
  | reply | value => exact run_appendReply growing _
  | finalize => exact absurd rfl appends

end Edit

theorem run_finalize_of_finalized (closed : packet.finalized = true) :
    Packet.finalize.run packet = .ok () packet := by
  simp only [Packet.finalize, EStateM.run_bind, EStateM.run_get, closed, ↓reduceIte,
    EStateM.run_pure]

/-- A packet is finalized with its length in front, or is too long and stays open. -/
theorem Sound.run_finalize (sound : packet.Sound) (growing : packet.finalized = false) :
    Packet.finalize.run packet =
      if packet.length ≤ maxLength then
        .ok () ⟨Int32.ofNat packet.length, packet.frames, false, true⟩
      else .error packet.overlong packet := by
  have pending : packet.placeholder = true := by rw [sound.placeholder_eq, growing, Bool.not_false]
  simp only [Packet.finalize, EStateM.run_bind, EStateM.run_get, growing, Bool.false_eq_true,
    ↓reduceIte, run_fillLength pending]
  by_cases fits : packet.length ≤ maxLength
  · simp only [if_pos fits]
    rfl
  · simp only [if_neg fits]

namespace Edit

/-- What an edit has put into a packet, by how it went. Behind the end it is nothing. -/
def left : Edit × Except Error Unit → Except Error Bytes
  | (edit, .ok ()) => edit.write
  | (_, .error .packetFinalized) => .ok []
  | (edit, .error _) => .ok edit.remains

theorem failsOnly_write (edit : Edit) : FailsOnly Error.IsUnwritable edit.write := by
  cases edit with
  | okStatus | errStatus | status | reply | value => exact Reply.failsOnly_write _
  | body content => exact (failsOnly_writeFrame content).mono fun _ => .inl
  | finalize => exact .ok _

/-- An edit that cannot be written leaves what remains of it. -/
theorem left_of_write {edit : Edit} {cause : Error} (refused : edit.write = .error cause) :
    left (edit, .error cause) = .ok edit.remains := by
  obtain ⟨_, _, _, rfl⟩ | ⟨_, rfl⟩ := edit.failsOnly_write cause refused
  · rfl
  · rfl

end Edit

/-- An edit appends what it stands for, or what remains of it where it cannot be written. -/
theorem Sound.attempt (sound : packet.Sound) (edit : Edit) :
    (packet.attempt edit).2.Sound ∧
      ∃ front, Edit.left (edit, (packet.attempt edit).1) = .ok front ∧
        (packet.attempt edit).2.frames = packet.frames ++ front := by
  unfold Packet.attempt
  by_cases closed : packet.finalized = true
  · by_cases closing : edit = .finalize
    · subst closing
      rw [Edit.perform, run_finalize_of_finalized closed]
      exact ⟨sound, [], rfl, (List.append_nil _).symm⟩
    · rw [Edit.run_perform_of_finalized closed closing]
      exact ⟨sound, [], rfl, (List.append_nil _).symm⟩
  · have growing : packet.finalized = false := Bool.eq_false_of_not_eq_true closed
    by_cases closing : edit = .finalize
    · subst closing
      rw [Edit.perform, sound.run_finalize growing]
      by_cases fits : packet.length ≤ maxLength
      · rw [if_pos fits]
        exact ⟨⟨rfl, fun _ => ⟨fits, rfl⟩⟩, [], rfl, (List.append_nil _).symm⟩
      · rw [if_neg fits]
        exact ⟨sound, [], rfl, (List.append_nil _).symm⟩
    · rw [Edit.run_perform growing closing]
      cases written : edit.write with
      | ok front => exact ⟨sound.extend growing front, front, written, rfl⟩
      | error cause =>
        exact ⟨sound.extend growing edit.remains, edit.remains, Edit.left_of_write written, rfl⟩

theorem Sound.performAll {edits : List Edit} (sound : packet.Sound) :
    (performAll edits packet).1.Sound ∧
      ∃ later, writeMany Edit.left (performAll edits packet).2 = .ok later ∧
        (performAll edits packet).1.frames = packet.frames ++ later := by
  induction edits generalizing packet with
  | nil => exact ⟨sound, [], rfl, (List.append_nil _).symm⟩
  | cons edit rest ih =>
    obtain ⟨sound', front, written, appended⟩ := sound.attempt edit
    obtain ⟨last, later, writtenLater, held⟩ := ih sound'
    refine ⟨last, front ++ later, ?_, ?_⟩
    · exact writeMany_cons_eq_ok_iff.mpr ⟨front, later, written, writtenLater, rfl⟩
    · rw [← List.append_assoc, ← appended]
      exact held

theorem attempt_of_finalized (closed : packet.finalized = true) (edit : Edit) :
    (packet.attempt edit).2 = packet := by
  unfold attempt
  by_cases closing : edit = .finalize
  · subst closing
    rw [Edit.perform, run_finalize_of_finalized closed]
  · rw [Edit.run_perform_of_finalized closed closing]

theorem performAll_of_finalized (closed : packet.finalized = true) (edits : List Edit) :
    (performAll edits packet).1 = packet := by
  induction edits with
  | nil => rfl
  | cons edit rest ih =>
    show (performAll rest (packet.attempt edit).2).1 = packet
    rw [attempt_of_finalized closed, ih]

/-- The edits that succeeded. -/
def succeeded (trace : List (Edit × Except Error Unit)) : List Edit :=
  trace.filterMap fun (edit, outcome) => if outcome.isOk then some edit else none

/-- Where no payload is longer than a length field can say, only the edits that succeeded leave
anything. -/
theorem writeMany_succeeded {trace : List (Edit × Except Error Unit)}
    (fits : ∀ edit ∈ trace.map Prod.fst, edit.payloadSize ≤ maxLength) :
    writeMany Edit.write (succeeded trace) = writeMany Edit.left trace := by
  induction trace with
  | nil => rfl
  | cons first rest ih =>
    obtain ⟨edit, outcome⟩ := first
    rw [List.map_cons, List.forall_mem_cons] at fits
    have later := ih fits.2
    cases outcome with
    | ok _ =>
      show (do return (← edit.write) ++ (← writeMany Edit.write (succeeded rest))) = _
      rw [later]
      rfl
    | error cause =>
      have nothing : Edit.left (edit, .error cause) = .ok [] := by
        unfold Edit.left
        split
        · next same => cases same
        · rfl
        · next same =>
          obtain ⟨rfl, -⟩ := Prod.mk.inj same
          rw [Edit.remains_eq_nil fits.1]
      show writeMany Edit.write (succeeded rest) = _
      rw [later, writeMany, nothing]
      exact (bind_pure _).symm

/-- The ways to start a packet: without frames, or with a status that is all there is. -/
inductive Starts : Packet → Bytes → Prop where
  | created : Starts {} []
  | status {head : Status} {packet : Packet} {first : Bytes} (made : ofStatus head = .ok packet)
    (written : (Reply.status head).write = .ok first) : Starts packet first

/-- A status packet can be made if its status can be written and is not too long. -/
theorem ofStatus_eq_ok_iff {head : Status} :
    ofStatus head = .ok packet ↔
      ∃ first, (Reply.status head).write = .ok first ∧ packetField + first.length ≤ maxLength ∧
        packet = ⟨Int32.ofNat (packetField + first.length), first, false, true⟩ := by
  rw [Reply.write_status]
  simp only [ofStatus, bind_eq_ok_iff, packetLength_eq_ok_iff, pure_eq_ok_iff]
  constructor
  · intro made
    obtain ⟨body, written, _, ⟨fits, rfl⟩, first, framed, rfl⟩ := made
    rw [← length_of_writeFrame_eq_ok framed] at fits ⊢
    exact ⟨first, ⟨body, written, framed⟩, fits, rfl⟩
  · intro made
    obtain ⟨first, ⟨body, written, framed⟩, fits, rfl⟩ := made
    rw [length_of_writeFrame_eq_ok framed] at fits ⊢
    exact ⟨body, written, _, ⟨fits, rfl⟩, first, framed, rfl⟩

theorem Starts.sound {first : Bytes} (started : packet.Starts first) :
    packet.Sound ∧ packet.frames = first := by
  cases started with
  | created => exact ⟨.created, rfl⟩
  | status made written =>
    obtain ⟨same, again, fits, rfl⟩ := ofStatus_eq_ok_iff.mp made
    obtain rfl := Except.ok.inj (again.symm.trans written)
    exact ⟨⟨rfl, fun _ => ⟨fits, rfl⟩⟩, rfl⟩

/-- What a packet is that started with some frames and was edited since. Behind its length field
it holds the frames it started with and what the edits left. These are the frames of the edits
that succeeded, unless a payload was too long for a length field. Before it is finalized it takes
whatever can be written, and of the rest it takes what remains, which is nothing or the status in
front of such a payload. After that it takes nothing. It is sent with its length in front, unless
it is too long itself. -/
structure Built (packet : Packet) (first : Bytes) (trace : List (Edit × Except Error Unit)) :
    Prop where
  holds : ∃ later, writeMany Edit.left trace = .ok later ∧
    packet.bytes.drop packetField = first ++ later
  holdsWhole : (∀ edit ∈ trace.map Prod.fst, edit.payloadSize ≤ maxLength) →
    ∃ later, writeMany Edit.write (succeeded trace) = .ok later ∧
      packet.bytes.drop packetField = first ++ later
  rejects : packet.finalized = true → ∀ edit : Edit, edit ≠ .finalize →
    edit.perform.run packet = .error .packetFinalized packet
  appends : packet.finalized = false → ∀ edit : Edit, edit ≠ .finalize → ∀ front,
    edit.write = .ok front → edit.perform.run packet = .ok () (packet.extend front)
  fails : packet.finalized = false → ∀ edit : Edit, edit ≠ .finalize → ∀ cause,
    edit.write = .error cause →
    edit.perform.run packet = .error cause (packet.extend edit.remains)
  keeps : ∀ edit : Edit, edit.payloadSize ≤ maxLength → packet.extend edit.remains = packet
  stays : packet.finalized = true → ∀ edits, (performAll edits packet).1 = packet
  finalizes : packet.bytes.length ≤ maxLength → ∃ after,
    Packet.finalize.run packet = .ok () after ∧ after.finalized = true ∧
    after.bytes.drop packetField = packet.bytes.drop packetField ∧
    Packet.finalize.run after = .ok () after
  sends : packet.bytes.length ≤ maxLength → packet.send =
    .ok (bigEndian packetField packet.bytes.length ++ packet.bytes.drop packetField)
  refuses : maxLength < packet.bytes.length → packet.finalized = false ∧
    Packet.finalize.run packet = .error packet.overlong packet ∧
    packet.send = .error packet.overlong

theorem Sound.finalizes (sound : packet.Sound) (fits : packet.length ≤ maxLength) :
    ∃ after, Packet.finalize.run packet = .ok () after ∧ after.finalized = true ∧
      after.frames = packet.frames := by
  by_cases closed : packet.finalized = true
  · exact ⟨packet, run_finalize_of_finalized closed, closed, rfl⟩
  · have growing : packet.finalized = false := Bool.eq_false_of_not_eq_true closed
    exact ⟨_, (sound.run_finalize growing).trans (if_pos fits), rfl, rfl⟩

theorem Sound.refuses (sound : packet.Sound) (long : maxLength < packet.length) :
    packet.finalized = false ∧ Packet.finalize.run packet = .error packet.overlong packet ∧
      packet.send = .error packet.overlong := by
  have growing : packet.finalized = false := by
    by_contra closed
    have fits := (sound.counts (Bool.eq_true_of_not_eq_false closed)).1
    omega
  have beyond := Nat.not_le_of_gt long
  exact ⟨growing, (sound.run_finalize growing).trans (if_neg beyond), sound.send_eq.trans (if_neg beyond)⟩

private def refused : List Edit :=
  [.okStatus 0x7F, .errStatus 0x01 "größer", .reply (.version (.ok 0x00) 1 "größer"), .body [0x99],
    .value 0xab 0xbb 0x66 "" (.double .zero), .finalize, .body [0x7F], .finalize]

end Packet

end RemoteCrowd
