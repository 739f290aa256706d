import RemoteCrowd.Proofs.Service.Refusal
import RemoteCrowd.Proofs.Wire.Splitting

/-!
Commands together and apart. What is answered to a command is a matter of the command and of the
session, and not of what the packet holds by then, be it of the request or of the answer. So the
commands of several packets can come in one, and the answers come in one as well.
-/

namespace RemoteCrowd

open Wire

namespace Wire

theorem readFrames_eq_ok_iff {bytes : Bytes} {frames : List Frame} :
    readFrames bytes = .ok frames ↔ splitFrames bytes = (frames, none) := by
  unfold readFrames
  generalize splitFrames bytes = split
  obtain ⟨found, fault⟩ := split
  cases fault with
  | none => simp
  | some cause => simp

end Wire

/-- Whatever a growing packet holds, the same frames are appended behind it, and the building
ends in the same way. -/
inductive Packet.Appends (action : Building Unit) : Prop where
  | done (front : Bytes)
    (run : ∀ packet : Packet, packet.finalized = false →
      action.run packet = .ok () (packet.extend front))
  | failed (cause : Error) (front : Bytes)
    (run : ∀ packet : Packet, packet.finalized = false →
      action.run packet = .error cause (packet.extend front))

theorem Packet.appends_appendReply (reply : Reply) : Appends (appendReply reply) := by
  cases written : reply.write with
  | ok front =>
    refine .done front fun packet growing => ?_
    rw [run_appendReply growing, written]
  | error cause =>
    refine .failed cause reply.remains fun packet growing => ?_
    rw [run_appendReply growing, written]

namespace Service

variable {μ : Type}

/-- Go on behind an answer, unless it closes the connection. -/
def unlessClosed (next : Packet → Performance μ (Packet × Flow)) :
    Packet × Flow → Performance μ (Packet × Flow)
  | (packet, .close) => return (packet, .close)
  | (packet, .stay) => next packet

/-- What an action adds to a growing packet, what becomes of the connection, and the session behind
it are the same whatever the packet holds. -/
inductive AddsIn (action : Packet → Performance μ (Packet × Flow)) (session : Session μ) :
    Prop where
  | done (front : Bytes) (flow : Flow) (after : Session μ)
    (run : ∀ packet : Packet, packet.finalized = false →
      (action packet).run session = .ok (packet.extend front, flow) after)
  | failed (lapse : Lapse) (after : Session μ)
    (run : ∀ packet : Packet, packet.finalized = false →
      (action packet).run session = .error lapse after)

/-- The action does in every session what it does with an empty packet. -/
abbrev Adds (action : Packet → Performance μ (Packet × Flow)) : Prop :=
  ∀ session, AddsIn action session

/-- Once the same frames are added to every packet, go on with what is behind them. -/
theorem AddsIn.behind {action next : Packet → Performance μ (Packet × Flow)}
    {session after : Session μ} (front : Bytes) (adds : AddsIn next after)
    (same : ∀ packet : Packet, packet.finalized = false →
      (action packet).run session = (next (packet.extend front)).run after) :
    AddsIn action session := by
  cases adds with
  | done back flow last run =>
    refine .done (front ++ back) flow last fun packet growing => ?_
    rw [same packet growing, run (packet.extend front) growing, Packet.extend_extend]
  | failed cause last run =>
    refine .failed cause last fun packet growing => ?_
    rw [same packet growing, run (packet.extend front) growing]

/-- One addition after the other, unless the first closes the connection. -/
theorem Adds.andThen {action next : Packet → Performance μ (Packet × Flow)} (adds : Adds action)
    (adds' : Adds next) : Adds fun packet => action packet >>= unlessClosed next := by
  intro session
  cases adds session with
  | failed cause after run =>
    refine .failed cause after fun packet growing => ?_
    rw [EStateM.run_bind, run packet growing]
  | done front flow after run =>
    cases flow with
    | close =>
      refine .done front .close after fun packet growing => ?_
      rw [EStateM.run_bind, run packet growing]
      rfl
    | stay =>
      refine .behind front (adds' after) fun packet growing => ?_
      rw [EStateM.run_bind, run packet growing]
      rfl

theorem adds_nothing :
    Adds fun packet => (pure (packet, .stay) : Performance μ (Packet × Flow)) := by
  intro session
  refine .done [] .stay session fun packet _ => ?_
  rw [Packet.extend_nil]
  rfl

theorem adds_status (head : Status) : Adds fun packet =>
    (do return (← pureResult (packet.grow (Packet.addStatus head)), .stay) :
      Performance μ (Packet × Flow)) := by
  intro session
  cases written : (Reply.status head).write with
  | ok front =>
    refine .done front .stay session fun packet growing => ?_
    rw [Packet.grow_addStatus growing, written]
    rfl
  | error cause =>
    refine .failed (.error cause) session fun packet growing => ?_
    rw [Packet.grow_addStatus growing, written]
    rfl

theorem adds_tell (opcode : UInt8) (cause : Error) :
    Adds fun packet => (tell opcode cause packet : Performance μ (Packet × Flow)) := by
  unfold tell
  cases cause.isFatal with
  | true => exact fun session => .failed (.error cause) session fun _ _ => rfl
  | false => exact adds_status (refusal opcode cause)

theorem adds_answerFrame (service : Service μ) (frame : Frame) :
    Adds (service.answerFrame frame) := by
  intro session
  cases attempted : (service.attempt frame).run session with
  | error lapse after =>
    rw [EStateM.run] at attempted
    cases lapse with
    | endless =>
      refine .failed .endless after fun packet growing => ?_
      rw [EStateM.run, answerFrame, attempted]
    | error cause =>
      refine .behind [] (adds_tell frame.opcode cause after) fun packet growing => ?_
      rw [EStateM.run, answerFrame, attempted, Packet.extend_nil]
      rfl
  | ok answered after =>
    obtain ⟨reply, flow⟩ := answered
    rw [EStateM.run] at attempted
    cases Packet.appends_appendReply reply with
    | done front run =>
      refine .done front flow after fun packet growing => ?_
      rw [EStateM.run, answerFrame, attempted]
      simp only [run packet growing]
    | failed cause front run =>
      refine .behind front (adds_tell frame.opcode cause after) fun packet growing => ?_
      rw [EStateM.run, answerFrame, attempted]
      simp only [run packet growing]
      rfl

theorem answerFrames_cons (service : Service μ) (frame : Frame) (rest : List Frame)
    (packet : Packet) :
    service.answerFrames (frame :: rest) packet =
      service.answerFrame frame packet >>= unlessClosed (service.answerFrames rest) := by
  rw [answerFrames]
  refine bind_congr fun answered => ?_
  obtain ⟨after, flow⟩ := answered
  cases flow <;> rfl

theorem adds_answerFrames (service : Service μ) (frames : List Frame) :
    Adds (service.answerFrames frames) := by
  induction frames with
  | nil => exact adds_nothing
  | cons frame rest ih =>
    simp only [funext (answerFrames_cons service frame rest)]
    exact (adds_answerFrame service frame).andThen ih

theorem bind_unlessClosed (action : Performance μ (Packet × Flow))
    (first second : Packet → Performance μ (Packet × Flow)) :
    action >>= unlessClosed first >>= unlessClosed second =
      action >>= unlessClosed fun packet => first packet >>= unlessClosed second := by
  rw [bind_assoc]
  refine bind_congr fun answered => ?_
  obtain ⟨packet, flow⟩ := answered
  cases flow with
  | close => exact pure_bind _ _
  | stay => rfl

theorem answerFrames_append (service : Service μ) (front rest : List Frame) (packet : Packet) :
    service.answerFrames (front ++ rest) packet =
      service.answerFrames front packet >>= unlessClosed (service.answerFrames rest) := by
  induction front generalizing packet with
  | nil => exact (pure_bind _ _).symm
  | cons frame more ih =>
    rw [List.cons_append, answerFrames_cons, answerFrames_cons, bind_unlessClosed]
    simp only [funext ih]

/-- Answer the body of a packet behind what the answer holds by then. -/
def answerInto (service : Service μ) (body : Bytes) (packet : Packet) :
    Performance μ (Packet × Flow) :=
  service.answerFrames (splitFrames body).1 packet >>= unlessClosed fun packet =>
    match (splitFrames body).2 with
    | none => return (packet, .stay)
    | some cause =>
      return (← pureResult (packet.grow (Packet.addStatus (refusal unframedOpcode cause))), .stay)

theorem answer_eq_answerInto (service : Service μ) (body : Bytes) :
    service.answer body = service.answerInto body {} := by
  rw [answer, answerInto]
  refine bind_congr fun answered => ?_
  obtain ⟨packet, flow⟩ := answered
  cases flow with
  | close => rfl
  | stay => cases (splitFrames body).2 <;> rfl

theorem adds_answerInto (service : Service μ) (body : Bytes) : Adds (service.answerInto body) := by
  refine (adds_answerFrames service _).andThen ?_
  cases (splitFrames body).2 with
  | none => exact adds_nothing
  | some cause => exact adds_status (refusal unframedOpcode cause)

theorem answerInto_append (service : Service μ) {front : Bytes}
    (whole : (splitFrames front).2 = none) (rest : Bytes) (packet : Packet) :
    service.answerInto (front ++ rest) packet =
      service.answerInto front packet >>= unlessClosed (service.answerInto rest) := by
  have plain : service.answerInto front packet =
      service.answerFrames (splitFrames front).1 packet := by
    rw [answerInto, whole]
    refine Eq.trans (bind_congr fun answered => ?_) (bind_pure _)
    obtain ⟨after, flow⟩ := answered
    cases flow <;> rfl
  rw [plain, answerInto, splitFrames_append whole, answerFrames_append, bind_unlessClosed]
  rfl

/-- Answer the body of a packet, and put the answer behind the frames of another packet. -/
def answerBehind (service : Service μ) (body : Bytes) (packet : Packet) :
    Performance μ (Packet × Flow) := do
  let (later, flow) ← service.answer body
  return (packet.extend later.frames, flow)

theorem run_answerInto (service : Service μ) (body : Bytes) {packet : Packet}
    (growing : packet.finalized = false) (session : Session μ) :
    (service.answerInto body packet).run session =
      (service.answerBehind body packet).run session := by
  rw [answerBehind, EStateM.run_bind, answer_eq_answerInto]
  cases adds_answerInto service body session with
  | done front flow after run => rw [run packet growing, run {} rfl]; rfl
  | failed cause after run => rw [run packet growing, run {} rfl]

/-- Behind delimited commands, bytes are answered as in a packet of their own. -/
theorem answer_append (service : Service μ) {first : Bytes}
    (whole : (splitFrames first).2 = none) (second : Bytes) :
    service.answer (first ++ second) =
      service.answer first >>= unlessClosed (service.answerBehind second) := by
  funext session
  rw [answer_eq_answerInto, answer_eq_answerInto, answerInto_append service whole]
  show EStateM.run _ session = EStateM.run _ session
  rw [EStateM.run_bind, EStateM.run_bind]
  cases adds_answerInto service first session with
  | failed cause after run => rw [run {} rfl]
  | done front flow after run =>
    rw [run {} rfl]
    cases flow with
    | close => rfl
    | stay => exact run_answerInto service second rfl after

theorem givesOnly_answer (service : Service μ) (body : Bytes) :
    GivesOnly (fun answered => answered.1 = { frames := answered.1.frames })
      (service.answer body) := by
  intro session answered after done
  rw [answer_eq_answerInto] at done
  cases adds_answerInto service body session with
  | failed cause after' run =>
    rw [run {} rfl] at done
    cases done
  | done front flow after' run =>
    rw [run {} rfl] at done
    cases done
    rfl

/-- Answer the bodies of packets one after another, each with a packet, until one of them closes
the connection. -/
def answerEach (service : Service μ) : List Bytes → Performance μ (List Packet × Flow)
  | [] => return ([], .stay)
  | body :: rest => do
    match ← service.answer body with
    | (answered, .close) => return ([answered], .close)
    | (answered, .stay) =>
      let (later, flow) ← answerEach service rest
      return (answered :: later, flow)

end Service

namespace Packet

/-- One packet with the frames of several. -/
def together (packets : List Packet) : Packet := { frames := packets.flatMap frames }

theorem extend_together {packet : Packet} (plain : packet = { frames := packet.frames })
    (later : List Packet) :
    packet.extend (together later).frames = together (packet :: later) := by
  rw [plain]
  rfl

theorem together_singleton {packet : Packet} (plain : packet = { frames := packet.frames }) :
    together [packet] = packet := by
  rw [← extend_together plain []]
  exact extend_nil packet

end Packet

namespace Service

variable {μ : Type}

/-- Answer the bodies of packets one after another, and put the answers into one packet. -/
def answerInOne (service : Service μ) (bodies : List Bytes) : Performance μ (Packet × Flow) := do
  let (answers, flow) ← service.answerEach bodies
  return (Packet.together answers, flow)

/-- Bodies in one packet are answered with the frames of the answers that they have in packets of
their own. -/
theorem run_answer_flatten (service : Service μ) {bodies : List Bytes}
    (whole : ∀ body ∈ bodies, (splitFrames body).2 = none) (last : Bytes) (session : Session μ) :
    (service.answer (bodies.flatten ++ last)).run session =
      (service.answerInOne (bodies ++ [last])).run session := by
  unfold answerInOne
  induction bodies generalizing session with
  | nil =>
    rw [List.flatten_nil, List.nil_append, List.nil_append, answerEach, EStateM.run_bind,
      EStateM.run_bind]
    cases answering : (service.answer last).run session with
    | error cause after => rfl
    | ok answered after =>
      have single := Packet.together_singleton (givesOnly_answer service last _ _ _ answering)
      obtain ⟨packet, flow⟩ := answered
      cases flow <;> exact congrArg (fun packet => EStateM.Result.ok (packet, _) after) single.symm
  | cons body rest ih =>
    rw [List.flatten_cons, List.append_assoc, answer_append service (whole body List.mem_cons_self),
      List.cons_append, answerEach, EStateM.run_bind, bind_assoc, EStateM.run_bind]
    cases answering : (service.answer body).run session with
    | error cause after => rfl
    | ok answered after =>
      have plain := givesOnly_answer service body _ _ _ answering
      obtain ⟨packet, flow⟩ := answered
      cases flow with
      | close =>
        exact congrArg (fun packet => EStateM.Result.ok (packet, _) after)
          (Packet.together_singleton plain).symm
      | stay =>
        show (service.answerBehind (rest.flatten ++ last) packet).run after = _
        rw [answerBehind, EStateM.run_bind,
          ih (fun body member => whole body (List.mem_cons_of_mem _ member)) after]
        simp only [EStateM.run_bind]
        cases (service.answerEach (rest ++ [last])).run after with
        | error cause last => rfl
        | ok answers last =>
          exact congrArg (fun packet => EStateM.Result.ok (packet, _) last)
            (Packet.extend_together plain answers.1)

/-- Behind delimited commands that leave the connection open, any bytes are answered as in a packet
of their own: with the same frames behind those of the first answer, and with the same end of the
connection and of the session. So packets of delimited commands can be put together, up to the
first that closes the connection. Replies that a length field can announce are given unless a step
goes on for ever. -/
theorem answer_together (service : Service μ) :
    (∀ (first : Bytes) (frames : List Frame), readFrames first = .ok frames →
      ∀ (session after : Session μ) (answered : Packet),
        (service.answer first).run session = .ok (answered, .stay) after →
      ∀ second : Bytes,
        (service.answer (first ++ second)).run session =
          (do
            let (later, flow) ← service.answer second
            return ({ frames := answered.frames ++ later.frames }, flow) :
              Performance μ (Packet × Flow)).run after ∧
        (¬ service.NeverEnds (splitFrames second).1 after →
          (∀ reply ∈ (service.exchange second after).replies, reply.size ≤ maxLength) →
          ∃ later flow last, (service.answer second).run after = .ok (later, flow) last)) ∧
    ∀ bodies : List Bytes, (∀ body ∈ bodies, ∃ frames, readFrames body = .ok frames) →
      ∀ (last : Bytes) (session : Session μ),
        (service.answer (bodies.flatten ++ last)).run session =
          (service.answerInOne (bodies ++ [last])).run session := by
  refine ⟨fun first frames whole session after answered continued second => ⟨?_, fun ends fits => ?_⟩,
    fun bodies whole last session => ?_⟩
  · have plain : answered = { frames := answered.frames } :=
      givesOnly_answer service first _ _ _ continued
    rw [answer_append service (congrArg Prod.snd (readFrames_eq_ok_iff.mp whole)),
      EStateM.run_bind, continued]
    show (service.answerBehind second answered).run after = _
    rw [answerBehind, plain]
    rfl
  · obtain ⟨bytes, written, -⟩ := exists_writeMany_exchange fits
    obtain ⟨flow, ended⟩ := exists_flow?_exchange ends
    exact ⟨_, _, _, answer_eq_ok ended written⟩
  · refine run_answer_flatten service (fun body member => ?_) last session
    obtain ⟨frames, read⟩ := whole body member
    exact congrArg Prod.snd (readFrames_eq_ok_iff.mp read)

private def pacer : Service Unit :=
  { config := { versionText := "v" }, table := .standard, movement := .constantVelocity }

private def lap : Run Unit := .start .constantVelocity 1 { name := "walk" }

private def halfLap : Course Unit := (lap.course.update .constantVelocity lap.scenario.stepLength).1

private def starting : Session Unit := ⟨some lap, 2⟩

private def underway : Session Unit := starting.behind lap halfLap (.paused halfLap.world.time)

/-- A step, and behind it an unknown opcode and a frame that is cut off. -/
theorem answer_together_cut :
    let step : Bytes := [10, 0x02, 0, 0, 0, 0, 0, 0, 0, 0]
    let cut : Bytes := [2, 0x99, 9]
    ∃ stepped answered later,
      readFrames step = .ok stepped ∧
      (pacer.answer step).run starting = .ok (answered, .stay) underway ∧
      (pacer.answer cut).run underway = .ok (later, .stay) underway ∧
      (pacer.answer (step ++ cut)).run starting =
        .ok ({ frames := answered.frames ++ later.frames }, .stay) underway ∧
      (pacer.answer ([step, step].flatten ++ cut)).run starting =
        (pacer.answerInOne ([step, step] ++ [cut])).run starting := by
  intro step cut
  obtain ⟨apart, several⟩ := answer_together pacer
  have framed : readFrames step = .ok [⟨0x02, [0, 0, 0, 0, 0, 0, 0, 0]⟩] := by decide +kernel
  have read : Command.ofFrame pacer.table ⟨0x02, [0, 0, 0, 0, 0, 0, 0, 0]⟩ =
      .ok (.simStep .zero) := by decide +kernel
  have takes : Course.Takes pacer.movement lap.scenario (targetOf .zero) lap.course 1 halfLap
      (.paused halfLap.world.time) := .pauses rfl (by decide +kernel) (by decide +kernel)
  have loaded : starting.run? = some lap := rfl
  have exchanged := exchange_of_react (readFrames_eq_ok_iff.mp framed)
    (react_of_paused read loaded rfl takes)
  have short : ∀ reply ∈ (pacer.exchange step starting).replies, reply.size ≤ maxLength := by
    rw [exchanged]
    decide +kernel
  obtain ⟨frames, written, -⟩ := exists_writeMany_exchange short
  have continued := answer_eq_ok (congrArg Exchange.flow? exchanged) written
  rw [exchanged] at continued
  obtain ⟨behind, answers⟩ := apart step _ framed starting underway _ continued cut
  have stays : (pacer.exchange cut underway).flow? = some .stay := by decide +kernel
  have ends : ¬ pacer.NeverEnds (splitFrames cut).1 underway := by
    intro endless
    have none := (flow?_exchange cut).trans (reactions_eq_none_iff.mpr endless)
    cases none.symm.trans stays
  have short' : ∀ reply ∈ (pacer.exchange cut underway).replies, reply.size ≤ maxLength := by
    decide +kernel
  obtain ⟨later, flow, last, answered⟩ := answers ends short'
  obtain ⟨frames', written', -⟩ := exists_writeMany_exchange short'
  have kept : (pacer.exchange cut underway).session = underway := by decide +kernel
  obtain ⟨same, rfl⟩ := EStateM.Result.ok.inj (answered.symm.trans (answer_eq_ok stays written'))
  obtain ⟨rfl, rfl⟩ := Prod.mk.inj same
  rw [kept] at answered
  rw [EStateM.run_bind, answered] at behind
  have framedEach : ∀ body ∈ [step, step], ∃ frames, readFrames body = .ok frames := by
    intro body member
    obtain rfl : body = step := by simpa using member
    exact ⟨_, framed⟩
  exact ⟨_, _, _, framed, continued, answered, behind,
    several [step, step] framedEach cut starting⟩

end Service

end RemoteCrowd
