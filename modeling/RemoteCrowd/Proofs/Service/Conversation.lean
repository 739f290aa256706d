import RemoteCrowd.Proofs.Service.Composition
import RemoteCrowd.Proofs.Service.Deliveries

/-!
Conversations over any stream. The packets that a client delivers are answered one after
another, and how the stream ends is answered at most once, where nothing more can be delimited.
The session remembers nothing of the connection, so it is no matter over how many connections
packets come.
-/

namespace RemoteCrowd

open Wire

/-- How far it went to answer packets one after another: what was written, how that ended the
conversation, if it did, and the session behind it. -/
structure Talk (μ : Type) where
  sent : Bytes
  outcome : Option (Except Lapse Unit)
  session : Session μ

/-- The packet whose only frame has the opcode that no command has, an error, and two words. -/
def farewellPacket : Bytes :=
  packetOfBody ([23, unframedOpcode, 0xff, 0, 0, 0, 16] ++ asciiBytes "malformed packet")

theorem malformedPacket_eq : malformedPacket = .ok farewellPacket := by decide +kernel

/-- What is written at the end of a conversation that no packet ended. -/
def farewell : Except Error Unit → Bytes
  | .ok () => []
  | .error _ => farewellPacket

/-- The conversation in which these packets were answered before the stream ended. -/
def Talk.ended {μ : Type} (talk : Talk μ) (result : Except Error Unit) : Conversation μ :=
  match talk.outcome with
  | some outcome => ⟨talk.sent, outcome, talk.session⟩
  | none => ⟨talk.sent ++ farewell result, atOnce result, talk.session⟩

namespace Service

variable {μ : Type}

/-- Answer bodies one after another, until an answer closes the connection, cannot be sent or is
never given. -/
def talk (service : Service μ) : List Bytes → Session μ → Talk μ
  | [], session => ⟨[], none, session⟩
  | body :: rest, session =>
    match service.respond body session with
    | .error lapse after => ⟨[], some (.error lapse), after⟩
    | .ok (bytes, .close) after => ⟨bytes, some (.ok ()), after⟩
    | .ok (bytes, .stay) after =>
      let later := talk service rest after
      { later with sent := bytes ++ later.sent }

variable {service : Service μ} {stream : Stream} {bodies : List Bytes}
  {result : Except Error Unit}

theorem converse_of_ends {tail : Bytes} {rest : Stream}
    (ends : Ends service.config.maxPacketSize tail rest result) (brings : stream.Brings tail rest)
    (session : Session μ) :
    service.converse stream session = ⟨farewell result, atOnce result, session⟩ := by
  obtain ⟨left, ⟨read, rfl⟩ | ⟨cause, read, rfl⟩⟩ := ends.readPacket brings
  · rw [converse_eq, read]
    rfl
  · rw [converse_eq, read]
    unfold resultOf
    cases departs : cause.isDeparture with
    | true => simp only [departs, if_true, farewell, atOnce]
    | false =>
      simp only [departs, Bool.false_eq_true, if_false, farewell, malformedPacket_eq,
        Except.toOption, Option.getD_some, atOnce]

/-- A conversation answers the packets that are delivered, and then the end of the stream. -/
theorem converse_of_delivers
    (delivers : Delivers service.config.maxPacketSize stream bodies result)
    (session : Session μ) :
    service.converse stream session = (service.talk bodies session).ended result := by
  induction bodies generalizing stream session with
  | nil =>
    obtain ⟨-, tail, rest, brings, ends⟩ := delivers
    exact converse_of_ends ends brings session
  | cons body rest ih =>
    obtain ⟨left, read, later⟩ := delivers.readPacket
    rw [converse_eq, read, talk]
    cases responded : service.respond body session with
    | error cause after => simp only [responded, Talk.ended]
    | ok answered after =>
      obtain ⟨bytes, flow⟩ := answered
      cases flow with
      | close => simp only [responded, Talk.ended]
      | stay =>
        simp only [responded, ih later after, Talk.ended]
        cases (service.talk rest after).outcome with
        | some outcome => rfl
        | none => simp only [List.append_assoc]

/-- A body is answered with one packet that holds its replies, if they fit one. -/
theorem respond_of_fits {body : Bytes} {session : Session μ} {flow : Flow}
    (ends : (service.exchange body session).flow? = some flow)
    (fits : replySize (service.exchange body session).replies ≤ maxLength) :
    ∃ frames, writeMany Reply.write (service.exchange body session).replies = .ok frames ∧
      (service.respond body).run session =
        .ok (packetOfBody frames, flow) (service.exchange body session).session := by
  have short : ∀ reply ∈ (service.exchange body session).replies, reply.size ≤ maxLength :=
    fun reply member => (Reply.size_le_replySize member).trans fits
  obtain ⟨frames, written, -⟩ := exists_writeMany_exchange short
  rw [← length_of_writeMany_reply written] at fits
  exact ⟨frames, written, respond_eq_ok ends written fits⟩

theorem talk_append (front rest : List Bytes) (session : Session μ) :
    service.talk (front ++ rest) session =
      match (service.talk front session).outcome with
      | some _ => service.talk front session
      | none =>
        let later := service.talk rest (service.talk front session).session
        { later with sent := (service.talk front session).sent ++ later.sent } := by
  induction front generalizing session with
  | nil => rfl
  | cons body more ih =>
    rw [List.cons_append, talk, talk]
    cases service.respond body session with
    | error cause after => rfl
    | ok answered after =>
      obtain ⟨bytes, flow⟩ := answered
      cases flow with
      | close => rfl
      | stay =>
        simp only [ih after]
        cases outcome : (service.talk more after).outcome with
        | some outcome' => simp only [outcome]
        | none => simp only [List.append_assoc]

/-- Packets that come over several connections. -/
theorem serve_of_delivers {streams : List Stream} {parts : List (List Bytes)}
    (deliver : List.Forall₂
      (fun stream bodies => ∃ result, Delivers service.config.maxPacketSize stream bodies result)
      streams parts) {session : Session μ}
    (stays : (service.talk parts.flatten session).outcome = none) :
    (service.serve streams session).2 = (service.talk parts.flatten session).session ∧
      ((∀ conversation ∈ (service.serve streams session).1, conversation.result = .ok ()) →
        (service.serve streams session).1.flatMap Conversation.sent =
          (service.talk parts.flatten session).sent) := by
  induction deliver generalizing session with
  | nil => exact ⟨rfl, fun _ => rfl⟩
  | @cons stream bodies streams parts delivers _ ih =>
    obtain ⟨result, delivers⟩ := delivers
    have first := converse_of_delivers delivers session
    rw [List.flatten_cons, talk_append] at stays ⊢
    cases outcome : (service.talk bodies session).outcome with
    | some outcome' =>
      simp only [outcome] at stays
      cases stays
    | none =>
      simp only [outcome, Talk.ended] at stays first ⊢
      obtain ⟨last, sent⟩ := ih stays
      have goesOn : service.serve (stream :: streams) session =
          (service.converse stream session ::
              (service.serve streams (service.talk bodies session).session).1,
            (service.serve streams (service.talk bodies session).session).2) := by
        rw [serve, first]
        cases result <;> rfl
      rw [goesOn, first]
      refine ⟨last, ?_⟩
      intro well
      obtain ⟨ended, later⟩ := List.forall_mem_cons.mp well
      cases result with
      | error cause => cases ended
      | ok _ => rw [List.flatMap_cons, sent later, farewell, List.append_nil]

/-- Every stream delivers some packets and ends a conversation behind them, however it is cut into
reads. In the conversation these packets are answered one after another, each with one packet, up
to an answer that closes the connection. If none does, the session is left as the last packet left
it, and the end is answered only where it is a failure of the client or of the connection. So
packets that come over several connections are answered as over one. -/
theorem converse_over_connections (service : Service μ) (session : Session μ) :
    (∀ stream, ∃ bodies result,
      Delivers service.config.maxPacketSize stream bodies result) ∧
    (∀ stream bodies result, Delivers service.config.maxPacketSize stream bodies result →
      service.converse stream session = (service.talk bodies session).ended result) ∧
    (∀ body, ¬ service.NeverEnds (splitFrames body).1 session →
      replySize (service.exchange body session).replies ≤ maxLength →
      ∃ frames flow, writeMany Reply.write (service.exchange body session).replies = .ok frames ∧
        (service.exchange body session).flow? = some flow ∧
        (service.respond body).run session =
          .ok (packetOfBody frames, flow) (service.exchange body session).session) ∧
    ∀ streams parts one,
      List.Forall₂ (fun stream bodies => ∃ result,
        Delivers service.config.maxPacketSize stream bodies result) streams parts →
      Delivers service.config.maxPacketSize one parts.flatten (.ok ()) →
      (service.talk parts.flatten session).outcome = none →
      (service.serve streams session).2 = (service.converse one session).session ∧
        ((∀ conversation ∈ (service.serve streams session).1, conversation.result = .ok ()) →
          (service.serve streams session).1.flatMap Conversation.sent =
            (service.converse one session).sent) := by
  refine ⟨exists_delivers _, ?_, ?_, ?_⟩
  · intro stream bodies result delivers
    exact converse_of_delivers delivers session
  · intro body goes fits
    obtain ⟨flow, ends⟩ := exists_flow?_exchange goes
    obtain ⟨frames, written, responded⟩ := respond_of_fits ends fits
    exact ⟨frames, flow, written, ends, responded⟩
  · intro streams parts one deliver delivers stays
    rw [converse_of_delivers delivers, Talk.ended, stays]
    simp only [farewell, List.append_nil]
    exact serve_of_delivers deliver stays

private def listener : Service Unit :=
  { config := { versionText := "v" }, table := .standard, movement := .constantVelocity }

private def question : Bytes := [2, 0x00]

private theorem delivers_questions {stream rest : Stream} {bodies : List Bytes} {tail : Bytes}
    {result : Except Error Unit} (questions : ∀ body ∈ bodies, body = question)
    (brings : stream.Brings (bodies.flatMap packetOfBody ++ tail) rest)
    (ends : Ends listener.config.maxPacketSize tail rest result) :
    Delivers listener.config.maxPacketSize stream bodies result := by
  refine ⟨?_, tail, rest, brings, ends⟩
  intro body member
  rw [questions body member]
  exact ⟨by decide, by decide⟩

/-- A question in front of a length field that makes no sense, and two questions over two
connections, of which the second breaks off in the middle of a length field. -/
theorem converse_over_connections_questions :
    let packet := packetOfBody question
    let answer := (listener.talk [question] {}).sent
    listener.converse [.data packet, .interrupted, .data [0, 0], .data [0, 2, 9]] {} =
        ⟨answer ++ farewellPacket, .error (.error (.framing (.packetLength 2))), {}⟩ ∧
      (listener.exchange question {}).replies = [.version (.ok 0x00) 20 "v"] ∧
      (∃ frames, (listener.respond question).run {} = .ok (packetOfBody frames, .stay) {}) ∧
      (listener.serve [[.data packet], [.data packet, .data [0, 0], .failed ⟨.reset, "reset"⟩]]
        {}).2 = (listener.converse [.data (packet ++ packet)] {}).session := by
  intro packet answer
  obtain ⟨-, talks, fits, several⟩ := converse_over_connections listener {}
  have stays : (listener.talk [question] {}).outcome = none := by decide +kernel
  have kept : (listener.talk [question] {}).session = {} := by decide +kernel
  have garbled : Delivers listener.config.maxPacketSize
      [.data packet, .interrupted, .data [0, 0], .data [0, 2, 9]] [question]
      (.error (.framing (.packetLength 2))) :=
    delivers_questions (by simp)
      (.data packet (.interrupted (.data [0, 0] (.data [0, 2, 9] (.nothing [])))))
      (.badLength (by decide : (2 : Int32) < 4))
  have first : Delivers listener.config.maxPacketSize [.data packet] [question] (.ok ()) :=
    delivers_questions (by simp) (.data packet (.nothing [])) .between
  have second : Delivers listener.config.maxPacketSize
      [.data packet, .data [0, 0], .failed ⟨.reset, "reset"⟩] [question] (.ok ()) :=
    delivers_questions (by simp) (.data packet (.data [0, 0] (.nothing _)))
      (.departed (.length (by decide)) rfl)
  have both : Delivers listener.config.maxPacketSize [.data (packet ++ packet)]
      [question, question] (.ok ()) :=
    delivers_questions (by simp) (.data (packet ++ packet) (.nothing [])) .between
  refine ⟨?_, by decide +kernel, ?_, ?_⟩
  · rw [talks _ _ _ garbled, Talk.ended, stays, kept]
    rfl
  · have stays : (listener.exchange question {}).flow? = some .stay := by decide +kernel
    have unchanged : (listener.exchange question {}).session = {} := by decide +kernel
    have goes : ¬ listener.NeverEnds (splitFrames question).1 {} := by
      intro endless
      cases ((flow?_exchange question).trans (reactions_eq_none_iff.mpr endless)).symm.trans stays
    obtain ⟨frames, flow, -, ends, responded⟩ := fits question goes (by decide +kernel)
    obtain rfl := Option.some.inj (ends.symm.trans stays)
    rw [unchanged] at responded
    exact ⟨frames, responded⟩
  · exact (several _ [[question], [question]] _ (.cons ⟨_, first⟩ (.cons ⟨_, second⟩ .nil)) both
      (by decide +kernel)).1

end Service

end RemoteCrowd
