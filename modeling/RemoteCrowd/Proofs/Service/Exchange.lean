import RemoteCrowd.Proofs.Packet
import RemoteCrowd.Proofs.Service.Answers
import RemoteCrowd.Service.Conversation

/-!
Exchanges. The commands of a packet are performed one after another, up to the first one that ends
the session or never ends, and each has one reply. If the replies fit a packet, the service sends
them in one, and a client reads back exactly these replies.
-/

namespace RemoteCrowd

open Wire

/-- The reply to one command, and the connection and the session behind it. -/
structure Reaction (μ : Type) where
  reply : Reply
  flow : Flow
  session : Session μ
deriving DecidableEq

/-- The replies to commands, and the connection and the session behind them. Nothing becomes of the
connection if the command behind the last reply never ends. -/
structure Exchange (μ : Type) where
  replies : List Reply
  flow? : Option Flow
  session : Session μ

namespace Service

variable {μ : Type}

/-- What comes of a command, by how it went, unless it never ends. A reply whose payload has no
encoding is replaced by its error. -/
def reactionTo (opcode : UInt8) :
    EStateM.Result Lapse (Session μ) (Reply × Flow) → Option (Reaction μ)
  | .error .endless _ => none
  | .error (.error cause) after => some ⟨.status (refusal opcode cause), .stay, after⟩
  | .ok (reply, flow) after =>
    match reply.writePayload with
    | .ok _ => some ⟨reply, flow, after⟩
    | .error cause => some ⟨.status (refusal opcode cause), .stay, after⟩

/-- What comes of commands one after another, until one of them closes the connection or never
ends. -/
def inTurn {α : Type} (react : α → Session μ → Option (Reaction μ)) :
    List α → Session μ → Exchange μ
  | [], session => ⟨[], some .stay, session⟩
  | item :: rest, session =>
    match react item session with
    | none => ⟨[], none, session⟩
    | some first =>
      match first.flow with
      | .close => ⟨[first.reply], some .close, first.session⟩
      | .stay =>
        let later := inTurn react rest first.session
        { later with replies := first.reply :: later.replies }

/-- What comes of the command in a frame. -/
def react (service : Service μ) (frame : Frame) (session : Session μ) : Option (Reaction μ) :=
  reactionTo frame.opcode ((service.attempt frame).run session)

/-- What comes of the commands in frames. -/
def reactions (service : Service μ) : List Frame → Session μ → Exchange μ := inTurn service.react

/-- The reply to bytes behind which no command can be delimited any more. -/
def faultReply (fault : Option Error) : List Reply :=
  (fault.map fun cause => Reply.status (refusal unframedOpcode cause)).toList

/-- What comes of commands and of a fault behind them, which is told as long as the connection
stays open. -/
def andFault (answered : Exchange μ) (fault : Option Error) : Exchange μ :=
  match answered.flow? with
  | some .stay => { answered with replies := answered.replies ++ faultReply fault }
  | _ => answered

/-- What comes of the body of a packet. -/
def exchange (service : Service μ) (body : Bytes) (session : Session μ) : Exchange μ :=
  andFault (service.reactions (splitFrames body).1 session) (splitFrames body).2

end Service

/-- What goes into a packet for a reply. If it is too long for that, what remains of it stays in
front of the status that says so, and nothing is said of a status that is itself too long. -/
def Reply.put (reply : Reply) : Except Error Bytes :=
  match reply.write with
  | .ok front => .ok front
  | .error cause =>
    if reply.head.code = .err then .error cause
    else do
      let told ← (status (Service.refusal reply.head.opcode cause)).write
      return reply.remains ++ told

namespace Service

variable {μ : Type} {service : Service μ} {frame : Frame} {session : Session μ}

theorem closes_eq_true_iff :
    service.closes frame = true ↔ Command.ofFrame service.table frame = .ok .close := by
  unfold closes
  split
  · next command read =>
    rw [read, Except.ok.injEq, beq_iff_eq]
    cases command <;> simp [Command.operation]
  · next cause refused => simp [refused]

/-- A performed command is answered under its opcode, and only the command that ends the
session closes the connection. -/
theorem givesOnly_attempt (service : Service μ) (frame : Frame) :
    GivesOnly
      (fun answered => answered.1.Performed service.table frame.opcode ∧
        answered.2 = if service.closes frame then .close else .stay)
      (service.attempt frame) := by
  cases read : Command.ofFrame service.table frame with
  | error cause =>
    intro session answered after done
    cases (run_attempt_of_error read session).symm.trans done
  | ok command =>
    have known := (Command.ofFrame_eq_ok_iff_lookup.mp read).1
    have flow : flowOf command = if service.closes frame then .close else .stay := by
      unfold closes
      rw [read]
      cases command <;> rfl
    rw [attempt_of_ok read]
    exact (givesOnly_perform service known).after fun reply performed => .pure ⟨performed, flow⟩

theorem run_attempt_of_closes (closing : service.closes frame = true) (session : Session μ) :
    (service.attempt frame).run session =
      .ok (.status (.ok frame.opcode), .close) session.close := by
  rw [attempt_of_ok (closes_eq_true_iff.mp closing)]
  rfl

/-- The session behind a frame, whatever is answered to it. -/
def sessionBehind (service : Service μ) (frame : Frame) (session : Session μ) : Session μ :=
  stateBehind ((service.attempt frame).run session)

/-- The session behind frames, whatever is answered to them. -/
def through (service : Service μ) (frames : List Frame) (session : Session μ) : Session μ :=
  frames.foldl (fun session frame => service.sessionBehind frame session) session

/-- One of the frames, with none in front of it that ends the session, is a step without end in the
session that it meets. -/
def NeverEnds (service : Service μ) (frames : List Frame) (session : Session μ) : Prop :=
  ∃ i frame, frames[i]? = some frame ∧
    (∀ earlier ∈ frames.take i, service.closes earlier = false) ∧
    service.Stalls frame (service.through (frames.take i) session)

/-- What comes of a frame that is not a step without end. -/
structure Reacts (service : Service μ) (frame : Frame) (session : Session μ)
    (reaction : Reaction μ) : Prop where
  answers : reaction.reply.Answers service.table frame.opcode
  encodes : ∃ payload, reaction.reply.writePayload = .ok payload
  flow : reaction.flow = if service.closes frame then .close else .stay
  session : reaction.session = service.sessionBehind frame session

/-- A frame that is not a step without end has one reply under its own opcode, and closes the
connection only with the command that ends the session. -/
theorem reacts_of_react {reaction : Reaction μ}
    (reacted : service.react frame session = some reaction) :
    service.Reacts frame session reaction := by
  unfold react at reacted
  cases attempted : (service.attempt frame).run session with
  | error lapse after =>
    have open_ : service.closes frame ≠ true := by
      intro closing
      cases (run_attempt_of_closes closing session).symm.trans attempted
    cases lapse with
    | endless =>
      rw [attempted] at reacted
      cases reacted
    | error cause =>
      rw [attempted] at reacted
      obtain rfl := Option.some.inj reacted
      exact ⟨.refused cause, ⟨none, rfl⟩, (if_neg open_).symm, by rw [sessionBehind, attempted]; rfl⟩
  | ok answered after =>
    obtain ⟨reply, flow⟩ := answered
    obtain ⟨performed, same⟩ := givesOnly_attempt service frame session _ after attempted
    rw [attempted, reactionTo] at reacted
    cases encoded : reply.writePayload with
    | ok payload =>
      simp only [encoded] at reacted
      obtain rfl := Option.some.inj reacted
      exact ⟨.performed performed, ⟨payload, encoded⟩, same, by rw [sessionBehind, attempted]; rfl⟩
    | error cause =>
      have open_ : service.closes frame ≠ true := by
        intro closing
        cases (run_attempt_of_closes closing session).symm.trans attempted
        cases encoded
      simp only [encoded] at reacted
      obtain rfl := Option.some.inj reacted
      exact ⟨.refused cause, ⟨none, rfl⟩, (if_neg open_).symm, by rw [sessionBehind, attempted]; rfl⟩

theorem react_eq_none_iff : service.react frame session = none ↔ service.Stalls frame session := by
  constructor
  · intro none
    by_contra goes
    unfold react at none
    cases attempted : (service.attempt frame).run session with
    | error lapse after =>
      obtain ⟨cause, rfl, -⟩ := isTold_of_attempt goes attempted
      rw [attempted] at none
      cases none
    | ok answered after =>
      obtain ⟨reply, flow⟩ := answered
      rw [attempted, reactionTo] at none
      split at none <;> cases none
  · intro stalls
    rw [react, run_attempt_of_stalls stalls]
    rfl

/-- A packet that still grows takes a status that can be written, and is left alone by others. -/
theorem run_tell {opcode : UInt8} {cause : Error} (told : cause.IsTold) {packet : Packet}
    (growing : packet.finalized = false) (session : Session μ) :
    (tell opcode cause packet).run session =
      match (Reply.status (refusal opcode cause)).write with
      | .ok front => .ok (packet.extend front, .stay) session
      | .error long => .error (.error long) session := by
  unfold Error.IsTold at told
  simp only [tell, told, Bool.false_eq_true, ↓reduceIte, Packet.grow_addStatus growing]
  cases (Reply.status (refusal opcode cause)).write <;> rfl

theorem run_answerFrame_of_attempt {packet : Packet} {reply : Reply} {flow : Flow}
    {after : Session μ} (attempted : (service.attempt frame).run session = .ok (reply, flow) after) :
    (service.answerFrame frame packet).run session =
      match (Packet.appendReply reply).run packet with
      | .ok _ answered => .ok (answered, flow) after
      | .error cause left => (tell frame.opcode cause left).run after := by
  rw [EStateM.run] at attempted ⊢
  rw [answerFrame, attempted]
  rfl

/-- The reply to a frame is put behind whatever the packet holds already. -/
theorem run_answerFrame {packet : Packet} (growing : packet.finalized = false) :
    (service.answerFrame frame packet).run session =
      match service.react frame session with
      | none => .error .endless session
      | some reaction =>
        match reaction.reply.put with
        | .ok front => .ok (packet.extend front, reaction.flow) reaction.session
        | .error cause => .error (.error cause) reaction.session := by
  by_cases stalls : service.Stalls frame session
  · have endless := run_attempt_of_stalls stalls
    rw [react_eq_none_iff.mpr stalls]
    rw [EStateM.run] at endless ⊢
    rw [answerFrame, endless]
  · unfold react
    cases attempted : (service.attempt frame).run session with
    | error lapse after =>
      obtain ⟨cause, rfl, told⟩ := isTold_of_attempt stalls attempted
      have answered : (service.answerFrame frame packet).run session =
          (tell frame.opcode cause packet).run after := by
        rw [EStateM.run] at attempted ⊢
        rw [answerFrame, attempted]
        rfl
      rw [answered, run_tell told growing]
      simp only [reactionTo, Reply.put]
      cases (Reply.status (refusal frame.opcode cause)).write <;> rfl
    | ok answered after =>
      obtain ⟨reply, flow⟩ := answered
      obtain ⟨performed, same⟩ := givesOnly_attempt service frame session _ after attempted
      rw [run_answerFrame_of_attempt attempted, Packet.run_appendReply growing]
      cases written : reply.write with
      | ok front =>
        obtain ⟨payload, -, -, encoded, -⟩ := Reply.write_eq_ok_iff.mp written
        simp only [reactionTo, encoded, Reply.put, written]
      | error cause =>
        have told := (reply.failsOnly_write cause written).isTold
        have growing' : (packet.extend reply.remains).finalized = false := growing
        simp only [run_tell told growing', Packet.extend_extend]
        cases encoded : reply.writePayload with
        | error cause' =>
          -- nothing is left of a reply whose payload has no encoding
          have nothing : reply.remains = [] := by rw [Reply.remains, encoded]
          obtain rfl := Except.error.inj ((Reply.write_of_error encoded).symm.trans written)
          simp only [reactionTo, encoded, Reply.put, nothing, List.nil_append]
          cases (Reply.status (refusal frame.opcode cause')).write <;> rfl
        | ok payload =>
          have stays : flow = .stay := by
            by_cases closing : service.closes frame = true
            · cases (run_attempt_of_closes closing session).symm.trans attempted
              cases written
            · rw [if_neg closing] at same
              exact same
          have opcode := (Reply.Answers.performed performed).opcode_head
          simp only [reactionTo, encoded, Reply.put, written, performed.code_ne_err, if_false,
            opcode, stays]
          cases (Reply.status (refusal frame.opcode cause)).write <;> rfl

theorem put_refusal (opcode : UInt8) (cause : Error) :
    (Reply.status (refusal opcode cause)).put = (Reply.status (refusal opcode cause)).write := by
  unfold Reply.put
  cases (Reply.status (refusal opcode cause)).write <;> rfl

/-- What comes of a packet that takes the replies of an exchange: they are put one behind the other,
unless the first that cannot be put is the end of it, or the last command never ends. -/
inductive Comes (exchange : Exchange μ) (packet : Packet) :
    EStateM.Result Lapse (Session μ) (Packet × Flow) → Prop where
  | answered {bytes : Bytes} {flow : Flow}
    (put : writeMany Reply.put exchange.replies = .ok bytes) (ends : exchange.flow? = some flow) :
    Comes exchange packet (.ok (packet.extend bytes, flow) exchange.session)
  | endless {bytes : Bytes} (put : writeMany Reply.put exchange.replies = .ok bytes)
    (goesOn : exchange.flow? = none) : Comes exchange packet (.error .endless exchange.session)
  | refused {cause : Error} (after : Session μ)
    (refuses : writeMany Reply.put exchange.replies = .error cause) :
    Comes exchange packet (.error (.error cause) after)

/-- What comes behind one reply comes behind all of them. -/
theorem Comes.behind {later : Exchange μ} {packet : Packet} {first : Reply} {front : Bytes}
    {result : EStateM.Result Lapse (Session μ) (Packet × Flow)} (put : first.put = .ok front)
    (comes : Comes later (packet.extend front) result) :
    Comes { later with replies := first :: later.replies } packet result := by
  have all : writeMany Reply.put (first :: later.replies) =
      (do return front ++ (← writeMany Reply.put later.replies)) := by
    rw [writeMany, put]
    rfl
  cases comes with
  | answered putLater ends =>
    rw [Packet.extend_extend]
    exact .answered (by rw [all, putLater]; rfl) ends
  | endless putLater goesOn => exact .endless (by rw [all, putLater]; rfl) goesOn
  | refused after refuses => exact .refused after (by rw [all, refuses]; rfl)

/-- The replies to frames are put one behind the other. -/
theorem comes_answerFrames {packet : Packet} (growing : packet.finalized = false)
    (frames : List Frame) (session : Session μ) :
    Comes (service.reactions frames session) packet
      ((service.answerFrames frames packet).run session) := by
  induction frames generalizing session packet with
  | nil =>
    have nothing : writeMany Reply.put ([] : List Reply) = .ok [] := rfl
    have comes : Comes ⟨[], some .stay, session⟩ packet (.ok (packet.extend [], .stay) session) :=
      .answered nothing rfl
    rw [Packet.extend_nil] at comes
    exact comes
  | cons frame rest ih =>
    rw [answerFrames, EStateM.run_bind, run_answerFrame growing, reactions, inTurn]
    cases service.react frame session with
    | none => exact .endless rfl rfl
    | some first =>
      obtain ⟨reply, flow, after⟩ := first
      cases put : reply.put with
      | error cause =>
        have refuses (later : List Reply) : writeMany Reply.put (reply :: later) = .error cause := by
          rw [writeMany, put]
          rfl
        simp only [put]
        cases flow with
        | close => exact .refused after (refuses [])
        | stay => exact .refused after (refuses _)
      | ok front =>
        simp only [put]
        cases flow with
        | close =>
          exact .answered ((writeMany_singleton ..).trans put) rfl
        | stay =>
          have growing' : (packet.extend front).finalized = false := growing
          exact (ih growing' after).behind put

theorem replies_andFault (answered : Exchange μ) (fault : Option Error) :
    ∃ told, (andFault answered fault).replies = answered.replies ++ told ∧
      (told = [] ∨ told = faultReply fault) := by
  unfold andFault
  split
  · exact ⟨_, rfl, .inr rfl⟩
  · exact ⟨[], (List.append_nil _).symm, .inl rfl⟩

/-- The replies to the body of a packet are put into a packet. -/
theorem comes_answer (service : Service μ) (body : Bytes) (session : Session μ) :
    Comes (service.exchange body session) {} ((service.answer body).run session) := by
  have growing : ({} : Packet).finalized = false := rfl
  have comes := service.comes_answerFrames growing (splitFrames body).1 session
  rw [exchange, answer, EStateM.run_bind]
  generalize service.reactions (splitFrames body).1 session = answered at comes ⊢
  generalize (service.answerFrames (splitFrames body).1 {}).run session = result at comes ⊢
  generalize (splitFrames body).2 = fault
  cases comes with
  | endless put goesOn =>
    have same : andFault answered fault = answered := by rw [andFault, goesOn]
    rw [same]
    exact .endless put goesOn
  | refused after refuses =>
    obtain ⟨told, replies, -⟩ := replies_andFault answered fault
    refine .refused after ?_
    rw [replies, writeMany_append, refuses]
    rfl
  | @answered bytes flow put ends =>
    cases flow with
    | close =>
      have same : andFault answered fault = answered := by rw [andFault, ends]
      rw [same]
      exact .answered put ends
    | stay =>
      have same : andFault answered fault =
          { answered with replies := answered.replies ++ faultReply fault } := by
        rw [andFault, ends]
      rw [same]
      cases fault with
      | none =>
        have put' : writeMany Reply.put (answered.replies ++ []) = .ok bytes := by
          rw [List.append_nil, put]
        exact .answered put' ends
      | some cause =>
        have put' : writeMany Reply.put (answered.replies ++ faultReply (some cause)) = (do
            return bytes ++ (← (Reply.status (refusal unframedOpcode cause)).write)) := by
          rw [writeMany_append, put]
          show (do
            return bytes ++ (← writeMany Reply.put [.status (refusal unframedOpcode cause)])) = _
          rw [writeMany_singleton, put_refusal]
        have growing : (Packet.extend {} bytes).finalized = false := rfl
        simp only [Packet.grow_addStatus growing]
        cases written : (Reply.status (refusal unframedOpcode cause)).write with
        | error long =>
          rw [written] at put'
          exact .refused _ put'
        | ok told =>
          rw [written] at put'
          exact .answered put' ends

/-- The reply answers some opcode, and its payload has an encoding. -/
def Given (table : OpcodeTable) (reply : Reply) : Prop :=
  (∃ opcode, reply.Answers table opcode) ∧ ∃ payload, reply.writePayload = .ok payload

theorem given_of_mem_reactions {frames : List Frame} {reply : Reply}
    (member : reply ∈ (service.reactions frames session).replies) : Given service.table reply := by
  induction frames generalizing session with
  | nil => cases member
  | cons frame rest ih =>
    rw [reactions, inTurn] at member
    cases reacted : service.react frame session with
    | none =>
      rw [reacted] at member
      cases member
    | some first =>
      have reacts := reacts_of_react reacted
      have given : Given service.table first.reply := ⟨⟨_, reacts.answers⟩, reacts.encodes⟩
      rw [reacted] at member
      cases flow : first.flow with
      | close =>
        simp only [flow, List.mem_singleton] at member
        exact member ▸ given
      | stay =>
        simp only [flow, List.mem_cons] at member
        rcases member with rfl | later
        · exact given
        · exact ih later

theorem given_of_mem_exchange {body : Bytes} {reply : Reply}
    (member : reply ∈ (service.exchange body session).replies) : Given service.table reply := by
  obtain ⟨told, replies, only⟩ :=
    replies_andFault (service.reactions (splitFrames body).1 session) (splitFrames body).2
  rw [exchange, replies, List.mem_append] at member
  rcases member with answered | member
  · exact given_of_mem_reactions answered
  · rcases only with rfl | rfl
    · cases member
    · cases fault : (splitFrames body).2 with
      | none =>
        rw [fault] at member
        cases member
      | some cause =>
        rw [fault] at member
        obtain rfl := List.mem_singleton.mp member
        exact ⟨⟨_, .refused cause⟩, none, rfl⟩

/-- Up to the first command that ends the session, every command has one reply under its own
opcode. -/
theorem opcodes_reactions {frames : List Frame} {flow : Flow}
    (ends : (service.reactions frames session).flow? = some flow) :
    match frames.findIdx? service.closes with
    | some i =>
      flow = .close ∧
        (service.reactions frames session).replies.map (fun reply => reply.head.opcode) =
          (frames.take (i + 1)).map Frame.opcode
    | none =>
      flow = .stay ∧
        (service.reactions frames session).replies.map (fun reply => reply.head.opcode) =
          frames.map Frame.opcode := by
  induction frames generalizing session with
  | nil => exact ⟨(Option.some.inj ends).symm, rfl⟩
  | cons frame rest ih =>
    rw [reactions, inTurn] at ends ⊢
    cases reacted : service.react frame session with
    | none =>
      rw [reacted] at ends
      cases ends
    | some first =>
      have reacts := reacts_of_react reacted
      have opcode := reacts.answers.opcode_head
      have closing := reacts.flow
      rw [reacted] at ends
      rw [List.findIdx?_cons]
      by_cases closes : service.closes frame = true
      · rw [if_pos closes] at closing ⊢
        simp only [closing] at ends ⊢
        exact ⟨(Option.some.inj ends).symm, congrArg (· :: []) opcode⟩
      · rw [if_neg closes] at closing ⊢
        simp only [closing] at ends ⊢
        have later := ih ends
        cases found : rest.findIdx? service.closes with
        | some i =>
          simp only [found, Option.map_some, List.map_cons, List.take_succ_cons, opcode] at later ⊢
          exact ⟨later.1, congrArg _ later.2⟩
        | none =>
          simp only [found, Option.map_none, List.map_cons, opcode] at later ⊢
          exact ⟨later.1, congrArg _ later.2⟩

/-- Only a step without end keeps the commands from coming to an end. -/
theorem reactions_eq_none_iff {frames : List Frame} :
    (service.reactions frames session).flow? = none ↔ service.NeverEnds frames session := by
  induction frames generalizing session with
  | nil => exact iff_of_false nofun (by rintro ⟨i, frame, met, -⟩; cases met)
  | cons frame rest ih =>
    rw [reactions, inTurn]
    cases reacted : service.react frame session with
    | none => exact iff_of_true rfl ⟨0, frame, rfl, nofun, react_eq_none_iff.mp reacted⟩
    | some first =>
      have goes : ¬ service.Stalls frame session := by
        intro stalls
        cases (react_eq_none_iff.mpr stalls).symm.trans reacted
      have reacts := reacts_of_react reacted
      have flow := reacts.flow
      by_cases closes : service.closes frame = true
      · rw [if_pos closes] at flow
        simp only [flow]
        refine iff_of_false nofun ?_
        rintro ⟨i, _, met, open_, stalls⟩
        cases i with
        | zero =>
          obtain rfl := Option.some.inj met
          exact goes stalls
        | succ i => cases (open_ frame List.mem_cons_self).symm.trans closes
      · rw [if_neg closes] at flow
        simp only [flow]
        refine (ih).trans ?_
        rw [reacts.session]
        constructor
        · rintro ⟨i, later, met, open_, stalls⟩
          have first := Bool.eq_false_of_not_eq_true closes
          exact ⟨i + 1, later, met, List.forall_mem_cons.mpr ⟨first, open_⟩, stalls⟩
        · rintro ⟨i, later, met, open_, stalls⟩
          cases i with
          | zero =>
            obtain rfl := Option.some.inj met
            exact absurd stalls goes
          | succ i => exact ⟨i, later, met, (List.forall_mem_cons.mp open_).2, stalls⟩

theorem flow?_exchange (body : Bytes) :
    (service.exchange body session).flow? =
      (service.reactions (splitFrames body).1 session).flow? := by
  rw [exchange, andFault]
  split <;> rfl

theorem exists_flow?_exchange {body : Bytes}
    (goes : ¬ service.NeverEnds (splitFrames body).1 session) :
    ∃ flow, (service.exchange body session).flow? = some flow :=
  Option.ne_none_iff_exists'.mp fun none =>
    goes (reactions_eq_none_iff.mp ((flow?_exchange body).symm.trans none))

/-- The exchange about one frame that leaves the connection open. -/
theorem exchange_of_react {body : Bytes} {reply : Reply} {after : Session μ}
    (split : splitFrames body = ([frame], none))
    (reacted : service.react frame session = some ⟨reply, .stay, after⟩) :
    service.exchange body session = ⟨[reply], some .stay, after⟩ := by
  rw [exchange, split, reactions, inTurn, reacted]
  rfl

theorem writeMany_put {replies : List Reply} {bytes : Bytes}
    (written : writeMany Reply.write replies = .ok bytes) :
    writeMany Reply.put replies = .ok bytes := by
  induction replies generalizing bytes with
  | nil => exact written
  | cons reply rest ih =>
    obtain ⟨front, tail, writtenFirst, writtenRest, rfl⟩ := writeMany_cons_eq_ok_iff.mp written
    have put : reply.put = .ok front := by rw [Reply.put, writtenFirst]
    exact writeMany_cons_eq_ok_iff.mpr ⟨front, tail, put, ih writtenRest, rfl⟩

/-- A body is answered with the packet of its replies, if they can be written and the commands come
to an end. -/
theorem answer_eq_ok {body : Bytes} {bytes : Bytes} {flow : Flow}
    (ends : (service.exchange body session).flow? = some flow)
    (written : writeMany Reply.write (service.exchange body session).replies = .ok bytes) :
    (service.answer body).run session =
      .ok ({ frames := bytes }, flow) (service.exchange body session).session := by
  have put := writeMany_put written
  have comes := comes_answer service body session
  generalize (service.answer body).run session = result at comes ⊢
  cases comes with
  | answered put' ends' =>
    obtain rfl := Except.ok.inj (put'.symm.trans put)
    obtain rfl := Option.some.inj (ends'.symm.trans ends)
    rfl
  | endless put' goesOn => cases goesOn.symm.trans ends
  | refused after refuses => cases refuses.symm.trans put

theorem readReplies_exchange {body : Bytes} {bytes : Bytes}
    (written : writeMany Reply.write (service.exchange body session).replies = .ok bytes) :
    readReplies service.table bytes = .ok (service.exchange body session).replies := by
  have expected : ∀ reply ∈ (service.exchange body session).replies,
      reply.Expected service.table := by
    intro reply member
    obtain ⟨⟨opcode, answers⟩, -⟩ := given_of_mem_exchange member
    exact answers.expected
  have told : ∀ reply ∈ (service.exchange body session).replies, reply.told = reply := by
    intro reply member
    obtain ⟨⟨opcode, answers⟩, -⟩ := given_of_mem_exchange member
    exact answers.told_eq
  rw [readReplies_of_writeMany expected written, List.map_congr_left told, List.map_id']

theorem exists_writeMany_exchange {body : Bytes}
    (fits : ∀ reply ∈ (service.exchange body session).replies, reply.size ≤ maxLength) :
    ∃ bytes, writeMany Reply.write (service.exchange body session).replies = .ok bytes ∧
      bytes.length = ((service.exchange body session).replies.map Reply.size).sum := by
  refine exists_writeMany_reply ?_ ?_ fits
  · intro reply member
    obtain ⟨⟨opcode, answers⟩, -⟩ := given_of_mem_exchange member
    exact answers.isAscii_description
  · intro reply member
    exact (given_of_mem_exchange member).2

private def exampleService : Service Unit :=
  { config := { versionText := "größer" }, table := .standard, movement := .constantVelocity }

end Service

end RemoteCrowd
