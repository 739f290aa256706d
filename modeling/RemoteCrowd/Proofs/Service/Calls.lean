import RemoteCrowd.Proofs.Service.Composition

/-!
Calls of a client that ask for one thing. The service answers each of them with the reply that the
client waits for, or with a status that refuses it, so a client is either given what it asked for
or told why not. It never takes a reply for something else, and never has to make do without one.
-/

namespace RemoteCrowd

open Wire

variable {μ : Type}

namespace Client

/-- Something a client asks for. -/
inductive Call where
  | getVersion
  | sendFile (scenario : String)
  | load (options : List String)
  | nextStep (target : Double)
  | getValue (domain : Domain) (variableId : UInt8) (element : String)
  | setValue (domain : Domain) (variableId : UInt8) (element : String) (value : Value)
  | close
deriving DecidableEq, Inhabited

namespace Call

/-- The command that is sent. -/
def command : Call → Command
  | getVersion => .getVersion
  | sendFile scenario => .sendFile scenario
  | load options => .load options
  | nextStep target => .simStep target
  | getValue domain variableId element => .get domain variableId element
  | setValue domain variableId element value => .set domain variableId element value
  | close => .close

/-- What the client does, with a bare status as a reply. -/
def make (client : Client) : Call → Client.Exchange Reply
  | getVersion => client.getVersion
  | sendFile scenario => return .status (← client.sendFile scenario)
  | load options => return .status (← client.load options)
  | nextStep target => client.nextStep target
  | getValue domain variableId element => client.getValue domain variableId element
  | setValue domain variableId element value =>
    return .status (← client.setValue domain variableId element value)
  | close => return .status (← client.close)

/-- What the client makes of a reply that was not refused. -/
def conclude : Call → Reply → Client.Exchange Reply
  | getVersion, .version head id text => return .version head id text
  | getVersion, other => throw (Client.unexpected "version" other)
  | nextStep _, .simTime head data => return .simTime head data
  | nextStep _, other => throw (Client.unexpected "simulation step" other)
  | getValue .., .value head responseId variableId element content =>
    return .value head responseId variableId element content
  | getValue .., other => throw (Client.unexpected "value" other)
  | sendFile _, reply | load _, reply | setValue .., reply | close, reply =>
    return .status reply.head

/-- The opcode of the call. -/
def opcode (table : OpcodeTable) (call : Call) : UInt8 := table.opcodeOf call.command.operation

/-- The reply gives what was asked for: the version that is configured, the results of a step, the
value of the variable and the element in question, or a bare status. Its status is OK for the
opcode of the call. -/
inductive Fulfils (table : OpcodeTable) (config : Config) : Call → Reply → Prop where
  | version : Fulfils table config getVersion
      (.version (.ok (table.opcodeOf .getVersion)) config.versionId config.versionText)
  | sent (scenario : String) :
    Fulfils table config (sendFile scenario) (.status (.ok (table.opcodeOf .sendFile)))
  | loaded (options : List String) :
    Fulfils table config (load options) (.status (.ok (table.opcodeOf .load)))
  | stepped (target : Double) :
    Fulfils table config (nextStep target) (.simTime (.ok (table.opcodeOf .simStep)) (.integer 0))
  | value (domain : Domain) (variableId : UInt8) (element : String) (content : Value) :
    Fulfils table config (getValue domain variableId element)
      (.value (.ok (table.opcodeOf (.get domain))) (table.opcodeOf (.getResponse domain))
        variableId element content)
  | set (domain : Domain) (variableId : UInt8) (element : String) (value : Value) :
    Fulfils table config (setValue domain variableId element value)
      (.status (.ok (table.opcodeOf (.set domain))))
  | closed : Fulfils table config close (.status (.ok (table.opcodeOf .close)))

theorem Fulfils.head_eq {table : OpcodeTable} {config : Config} {call : Call} {reply : Reply}
    (fulfils : call.Fulfils table config reply) : reply.head = .ok (call.opcode table) := by
  cases fulfils <;> rfl

end Call

end Client

namespace Service

/-- A call that is performed gives what was asked for, or it is declined. -/
theorem givesOnly_perform_call (service : Service μ) (call : Client.Call) :
    GivesOnly
      (fun reply => call.Fulfils service.table service.config reply ∨
        ∃ operation, reply = decline (call.opcode service.table) operation)
      (service.perform (call.opcode service.table) call.command) := by
  cases call with
  | getVersion => exact .pure (.inl .version)
  | sendFile scenario => exact .bind fun _ => .bind fun _ => .pure (.inl (.sent scenario))
  | load options => exact .bind fun _ => .bind fun _ => .bind fun _ => .pure (.inl (.loaded options))
  | nextStep target => exact .bind fun _ => .bind fun _ => .pure (.inl (.stepped target))
  | close => exact .bind fun _ => .pure (.inl .closed)
  | getValue domain variableId element =>
    cases domain with
    | simulation | person =>
      exact .bind fun _ => .bind fun content => .pure (.inl (.value _ variableId element content))
    | _ => exact .pure (.inr ⟨_, rfl⟩)
  | setValue domain variableId element value =>
    cases domain with
    | person => exact .bind fun _ => .bind fun _ => .pure (.inl (.set _ variableId element value))
    | _ => exact .pure (.inr ⟨_, rfl⟩)

/-- A call is answered with what was asked for, or with a status that refuses it. -/
theorem reply_of_execute {service : Service μ} {call : Client.Call} {session : Session μ}
    {reaction : Reaction μ} (executed : service.execute call.command session = some reaction) :
    call.Fulfils service.table service.config reaction.reply ∨
      reaction.reply.head.code = .notImplemented ∨ reaction.reply.head.code = .err := by
  rw [execute, EStateM.run_bind] at executed
  cases performed : (service.perform (call.opcode service.table) call.command).run session with
  | error lapse after =>
    simp only [Client.Call.opcode] at performed
    rw [performed] at executed
    cases lapse with
    | endless => cases executed
    | error cause =>
      obtain rfl := Option.some.inj executed
      exact .inr (.inr rfl)
  | ok reply after =>
    have given := givesOnly_perform_call service call session reply after performed
    simp only [Client.Call.opcode] at performed
    simp only [performed, EStateM.run_pure, reactionTo] at executed
    split at executed
    · obtain rfl := Option.some.inj executed
      rcases given with fulfils | ⟨operation, rfl⟩
      · exact .inl fulfils
      · exact .inr (.inl rfl)
    · obtain rfl := Option.some.inj executed
      exact .inr (.inr rfl)

/-- Only a step that goes on for ever is not answered. -/
theorem execute_eq_none_iff {service : Service μ} {command : Command} {session : Session μ} :
    service.execute command session = none ↔
      ∃ target run, command = .simStep target ∧ session.run? = some run ∧ run.outcome = none ∧
        run.course.advance service.movement run.scenario (targetOf target) = none := by
  rw [execute, EStateM.run_bind]
  by_cases step : ∃ target, command = .simStep target
  · obtain ⟨target, rfl⟩ := step
    rw [run_perform_simStep]
    cases made : session.step service.movement (targetOf target) with
    | ok after =>
      simp only
      refine iff_of_false ?_ ?_
      · cases after.usable with
        | error cause => exact Option.some_ne_none _
        | ok run => exact Option.some_ne_none _
      · rintro ⟨target', run, same, endless⟩
        obtain rfl := Command.simStep.inj same
        cases (Session.step_eq_endless_iff.mpr ⟨run, endless⟩).symm.trans made
    | error lapse =>
      rcases Session.isTold_of_step made with rfl | ⟨cause, rfl, -⟩
      · obtain ⟨run, endless⟩ := Session.step_eq_endless_iff.mp made
        exact iff_of_true rfl ⟨target, run, rfl, endless⟩
      · refine iff_of_false (Option.some_ne_none _) ?_
        rintro ⟨target', run, same, endless⟩
        obtain rfl := Command.simStep.inj same
        cases (Session.step_eq_endless_iff.mpr ⟨run, endless⟩).symm.trans made
  · refine iff_of_false ?_ ?_
    · cases performed : (service.perform (service.table.opcodeOf command.operation) command).run
        session with
      | error lapse after =>
        obtain ⟨cause, rfl, -⟩ := throwsOnly_perform service _ (not_exists.mp step) _ _ _ performed
        exact Option.some_ne_none _
      | ok reply after =>
        simp only [EStateM.run_pure, reactionTo]
        split <;> exact Option.some_ne_none _
    · rintro ⟨target, _, same, -⟩
      exact step ⟨target, same⟩

/-- A version whose text is ASCII is told as it is configured. -/
theorem execute_getVersion {service : Service μ}
    (ascii : Text.isAscii service.config.versionText = true)
    (short : service.config.versionText.length ≤ maxLength) (session : Session μ) :
    service.execute .getVersion session =
      some ⟨.version (.ok (service.table.opcodeOf .getVersion)) service.config.versionId
        service.config.versionText, .stay, session⟩ := by
  have written := writeString_eq_ok_iff.mpr ⟨ascii, short, rfl⟩
  show reactionTo _ (EStateM.Result.ok (_, Flow.stay) session) = _
  simp only [reactionTo, Reply.writePayload, written]
  rfl

theorem replies_executions {service : Service μ} {command : Command} {session : Session μ}
    {reaction : Reaction μ} (executed : service.execute command session = some reaction) :
    (service.executions [command] session).replies = [reaction.reply] := by
  rw [executions, inTurn, executed]
  simp only [inTurn]
  split <;> rfl

end Service

namespace Client

section Requests

variable {client : Client} {command : Command} {reply : Reply} {link after : Link}

theorem run_request_of_ok
    (heard : (client.sendCommands [command]).run link = .ok [reply] after)
    (good : reply.head.isOk = true) : (client.request command).run link = .ok reply after := by
  rw [request, EStateM.run_bind, heard]
  simp only [good, if_true]
  rfl

theorem run_request_of_refused
    (heard : (client.sendCommands [command]).run link = .ok [reply] after)
    (refused : reply.head.isOk = false) :
    (client.request command).run link =
      .error (.rejected (client.table.opcodeOf command.operation) reply.head.description)
        after := by
  rw [request, EStateM.run_bind, heard]
  simp only [refused]
  rfl

theorem stateBehind_request (client : Client) (command : Command) (link : Link) :
    stateBehind ((client.request command).run link) =
      stateBehind ((client.sendCommands [command]).run link) := by
  refine stateBehind_bind (fun replies => ?_) link
  cases replies with
  | nil => exact .throw _
  | cons reply rest =>
    simp only
    split
    · exact .pure reply
    · exact .throw _

end Requests

namespace Call

variable {client : Client} {call : Call} {reply : Reply} {link after : Link}

theorem make_eq (client : Client) (call : Call) :
    call.make client = (do call.conclude (← client.request call.command)) := by
  cases call with
  | getVersion | nextStep | getValue =>
    refine bind_congr fun reply => ?_
    cases reply <;> rfl
  | sendFile | load | setValue | close => exact bind_assoc ..

theorem conclude_of_fulfils {table : OpcodeTable} {config : Config}
    (fulfils : call.Fulfils table config reply) : call.conclude reply = pure reply := by
  cases fulfils <;> rfl

theorem keeps_conclude (call : Call) (reply : Reply) : Keeps (call.conclude reply) := by
  cases call with
  | getVersion | nextStep | getValue => cases reply <;> first | exact .pure _ | exact .throw _
  | sendFile | load | setValue | close => exact .pure _

/-- A client that hears what it asked for is content with it. -/
theorem run_make_of_fulfils {table : OpcodeTable} {config : Config}
    (heard : (client.sendCommands [call.command]).run link = .ok [reply] after)
    (fulfils : call.Fulfils table config reply) :
    (call.make client).run link = .ok reply after := by
  have good : reply.head.isOk = true := by
    rw [fulfils.head_eq]
    rfl
  rw [make_eq, EStateM.run_bind, Client.run_request_of_ok heard good]
  simp only [conclude_of_fulfils fulfils]
  rfl

/-- A client that hears that it is refused says so. -/
theorem run_make_of_refused
    (heard : (client.sendCommands [call.command]).run link = .ok [reply] after)
    (refused : reply.head.isOk = false) :
    (call.make client).run link =
      .error (.rejected (call.opcode client.table) reply.head.description) after := by
  rw [make_eq, EStateM.run_bind, Client.run_request_of_refused heard refused]
  rfl

/-- Whatever is heard, and whatever the client makes of it, only the request is written. -/
theorem stateBehind_make (client : Client) (call : Call) (link : Link) :
    stateBehind ((call.make client).run link) =
      stateBehind ((client.sendCommands [call.command]).run link) := by
  rw [make_eq, stateBehind_bind (keeps_conclude call), Client.stateBehind_request]

/-- How a call ends whose reply has been heard. It is rejected, with what the service says, just
when the service refuses it, it fails for no other reason, and otherwise it gives what was asked
for. -/
structure Ends (client : Client) (config : Config) (call : Call) (reply : Reply) (after : Link)
    (result : EStateM.Result Error Link Reply) : Prop where
  rejected_iff :
    result = .error (.rejected (call.opcode client.table) reply.head.description) after ↔
      reply.head.code = .err ∨ reply.head.code = .notImplemented
  given : ¬ (reply.head.code = .err ∨ reply.head.code = .notImplemented) →
    result = .ok reply after ∧ reply.head = .ok (call.opcode client.table) ∧
      call.Fulfils client.table config reply
  only : ∀ cause last, result = .error cause last →
    cause = .rejected (call.opcode client.table) reply.head.description

theorem ends_of_heard {config : Config}
    (heard : (client.sendCommands [call.command]).run link = .ok [reply] after)
    (fits : call.Fulfils client.table config reply ∨
      reply.head.code = .notImplemented ∨ reply.head.code = .err) :
    call.Ends client config reply after ((call.make client).run link) := by
  rcases fits with fulfils | refused
  · have made := run_make_of_fulfils heard fulfils
    have code : reply.head.code = .ok := by
      rw [fulfils.head_eq]
      rfl
    constructor
    · simp [made, code]
    · intro _
      exact ⟨made, fulfils.head_eq, fulfils⟩
    · intro cause last failed
      cases made.symm.trans failed
  · have bad : reply.head.isOk = false := by
      rcases refused with code | code <;> rw [Status.isOk, code] <;> rfl
    have made := run_make_of_refused heard bad
    constructor
    · simp [made, refused.symm]
    · intro other
      exact absurd refused.symm other
    · intro cause last failed
      obtain ⟨rfl, -⟩ := EStateM.Result.error.inj (made.symm.trans failed)
      rfl

end Call

variable {assigned : AssignedOpcodes}

/-- Whatever a client asks a service for that has the same opcodes, it writes one request, the
service answers it by performing the command on its session, and the client hears this answer:
it is given what it asked for, or told why not, and no other error is possible. The version is told
as it is configured, if its text is ASCII. The packets must not be longer than the other side and
a length field allow, and only a step that goes on for ever is not answered. -/
theorem call_of_service (client : Client) (service : Service μ)
    (built : OpcodeTable.build assigned = .ok client.table)
    (built' : OpcodeTable.build assigned = .ok service.table) (call : Call) (session : Session μ)
    (known : call.command.operation ∈ Operation.all)
    (encodes : ∃ body, call.command.write client.table = .ok body)
    (allowed : requestSize client.table [call.command] ≤ service.config.maxPacketSize)
    (fits : requestSize client.table [call.command] ≤ maxLength) :
    (service.execute call.command session = none ↔
      ∃ target run, call.command = .simStep target ∧ session.run? = some run ∧
        run.outcome = none ∧
        run.course.advance service.movement run.scenario (Service.targetOf target) = none) ∧
    ∀ reaction, service.execute call.command session = some reaction →
      replySize [reaction.reply] ≤ client.maxPacketSize →
      replySize [reaction.reply] ≤ maxLength →
      ∃ request answer,
        (∀ link, (stateBehind ((call.make client).run link)).sent = link.sent ++ request) ∧
        (∀ stream rest, stream.Brings request rest →
          service.converse stream session =
            service.goesOn answer (service.executions [call.command] session) rest) ∧
        ∀ link rest, link.incoming.Brings answer rest → ∃ left, left.Brings [] rest ∧
          call.Ends client service.config reaction.reply ⟨left, link.sent ++ request⟩
            ((call.make client).run link) ∧
          (call = .getVersion → Text.isAscii service.config.versionText = true →
            service.config.versionText.length ≤ maxLength →
            (call.make client).run link =
              .ok (.version (.ok (call.opcode client.table)) service.config.versionId
                service.config.versionText) ⟨left, link.sent ++ request⟩) := by
  refine ⟨Service.execute_eq_none_iff, fun reaction executed allowedBack fitsBack => ?_⟩
  have shared : client.table = service.table := Except.ok.inj (built.symm.trans built')
  have replies := Service.replies_executions executed
  rw [← replies] at allowedBack fitsBack
  obtain ⟨request, answer, composes⟩ := exists_composes built' shared (by simpa using known)
    (by simpa using encodes) allowed fits allowedBack fitsBack
  refine ⟨request, answer, ?_, composes.answers, ?_⟩
  · intro link
    rw [Call.stateBehind_make]
    obtain ⟨left, ⟨replies, sent⟩ | ⟨cause, sent⟩⟩ := composes.asks link
    · rw [sent, stateBehind]
    · rw [sent, stateBehind]
  · intro link rest brings
    obtain ⟨left, silent, heard⟩ := composes.hears link rest brings
    rw [replies] at heard
    have ends : call.Ends client service.config reaction.reply ⟨left, link.sent ++ request⟩
        ((call.make client).run link) := by
      apply Call.ends_of_heard heard
      rw [shared]
      exact Service.reply_of_execute executed
    refine ⟨left, silent, ends, ?_⟩
    rintro rfl ascii short
    obtain rfl := Option.some.inj (executed.symm.trans (Service.execute_getVersion ascii short session))
    have given := ends.given
    simp only [Reply.head, Status.ok] at given
    rw [shared]
    exact (given (by simp)).1

private def caller : Client where
  table := .standard
  maxPacketSize := 128

private def callee : Service Unit where
  config := { versionText := "v" }
  table := .standard
  movement := .constantVelocity

/-- A question for the version, and a step although nothing is loaded. -/
theorem call_of_service_version :
    (∃ request answer, ∀ link rest, link.incoming.Brings answer rest → ∃ left,
      (Call.getVersion.make caller).run link =
        .ok (.version (.ok 0x00) 20 "v") ⟨left, link.sent ++ request⟩) ∧
    ∃ request answer, ∀ link rest, link.incoming.Brings answer rest → ∃ left,
      ((Call.nextStep .zero).make caller).run link =
        .error (.rejected 0x02 "State access error: no scenario loaded")
          ⟨left, link.sent ++ request⟩ := by
  have built : OpcodeTable.build {} = .ok OpcodeTable.standard := by rfl
  constructor
  · obtain ⟨-, answers⟩ :=
      call_of_service caller callee built built .getVersion {}
        (by decide) ⟨_, rfl⟩ (by decide +kernel) (by decide +kernel)
    obtain ⟨request, answer, -, -, hears⟩ := answers _ rfl (by decide +kernel) (by decide +kernel)
    refine ⟨request, answer, fun link rest brings => ?_⟩
    obtain ⟨left, -, -, version⟩ := hears link rest brings
    exact ⟨left, version rfl (by decide) (by decide)⟩
  · obtain ⟨-, answers⟩ :=
      call_of_service caller callee built built (.nextStep .zero) {}
        (by decide) ⟨_, rfl⟩ (by decide +kernel) (by decide +kernel)
    have refused : callee.execute (.simStep .zero) {} =
        some ⟨.status (.err 0x02 "State access error: no scenario loaded"), .stay, {}⟩ := by
      decide +kernel
    obtain ⟨request, answer, -, -, hears⟩ :=
      answers _ refused (by decide +kernel) (by decide +kernel)
    refine ⟨request, answer, fun link rest brings => ?_⟩
    obtain ⟨left, -, ends, -⟩ := hears link rest brings
    exact ⟨left, ends.rejected_iff.mpr (.inl rfl)⟩

end Client

end RemoteCrowd
