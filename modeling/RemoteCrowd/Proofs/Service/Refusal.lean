import RemoteCrowd.Proofs.Service.Exchange
import RemoteCrowd.Proofs.Simulation.Changing

/-!
Commands that are refused. A command that is answered with anything but success leaves the session
as it was, wherever it fails, with two exceptions. A scenario whose run cannot be started has cost
the session its run by then. And a step of a session that waits for one is always made, and what it
is answered with is how the session stands behind it.
-/

namespace RemoteCrowd

open Wire

variable {μ α : Type}

/-- The reply tells a success, and it can be written. -/
def Reply.Acknowledges (reply : Reply) : Prop :=
  reply.head.code = .ok ∧ ∃ front, reply.write = .ok front

namespace Service

/-- The action leaves the session alone, or its reply acknowledges what it did. -/
def Owns (action : Performance μ Reply) : Prop :=
  ∀ before, stateBehind (action.run before) = before ∨
    ∃ reply after, action.run before = .ok reply after ∧ reply.Acknowledges

namespace Owns

theorem of_keeps {action : Performance μ Reply} (keeps : Keeps action) : Owns action :=
  fun before => .inl (keeps before)

/-- What comes after a question owns up to what the whole does. -/
theorem after {first : Performance μ α} {next : α → Performance μ Reply} (keeps : Keeps first)
    (owns : ∀ a, Owns (next a)) : Owns (first >>= next) := by
  intro before
  have kept := keeps before
  rw [EStateM.run_bind]
  cases ran : first.run before with
  | error cause mid =>
    rw [ran] at kept
    exact .inl kept
  | ok value mid =>
    rw [ran] at kept
    obtain rfl : mid = before := kept
    exact owns value mid

end Owns

theorem keeps_pureResult (result : Except Error α) :
    Keeps (pureResult result : Performance μ α) := by
  cases result with
  | ok value => exact .pure value
  | error cause => exact .throw (Lapse.error cause)

theorem keeps_inspect (question : World → Except Error α) :
    Keeps (inspect question : Performance μ α) := by
  intro session
  rw [run_inspect]
  cases session.world >>= question with
  | ok value => rfl
  | error cause => rfl

theorem acknowledges_done (opcode : UInt8) : (Reply.status (.ok opcode)).Acknowledges :=
  ⟨rfl, _, rfl⟩

theorem acknowledges_simTime (opcode : UInt8) :
    (Reply.simTime (.ok opcode) (.integer 0)).Acknowledges :=
  ⟨rfl, _, rfl⟩

theorem keeps_performGet (service : Service μ) (opcode : UInt8) (domain : Domain)
    (variableId : UInt8) (element : String) :
    Keeps (service.performGet opcode domain variableId element) := by
  cases domain with
  | simulation | person =>
    exact (keeps_pureResult _).bind fun asked => (keeps_inspect _).bind fun content => .pure _
  | _ => exact .pure _

/-- A person that cannot be changed, or not so, is not changed at all. -/
theorem owns_setPersonValue (asked : PersonVariable) (element : String) (value : Value)
    {reply : Reply} (acknowledges : reply.Acknowledges) :
    Owns (do access (World.setPersonValue asked element value); return reply :
      Performance μ Reply) := by
  intro session
  rw [EStateM.run_bind, run_access]
  cases usable : session.usable with
  | error cause => exact .inl rfl
  | ok run =>
    have same : session.setWorld run.course.world = session := Session.setWorld_of_usable usable
    simp only [World.run_setPersonValue]
    cases run.course.world.locate element with
    | error cause => exact .inl same
    | ok located =>
      cases World.personChange asked value with
      | error cause => exact .inl same
      | ok change => exact .inr ⟨reply, _, rfl, acknowledges⟩

theorem owns_performSet (opcode : UInt8) (domain : Domain) (variableId : UInt8)
    (element : String) (value : Value) :
    Owns (performSet opcode domain variableId element value : Performance μ Reply) := by
  cases domain with
  | person =>
    exact .after (keeps_pureResult _) fun asked =>
      owns_setPersonValue asked element value (acknowledges_done opcode)
  | _ => exact .of_keeps (.pure _)

/-- The command asks for a run of a scenario, which it names the file of or brings along. -/
inductive AsksFor (service : Service μ) (scenario : Scenario) : Command → Prop where
  | file {options : List String} {path : String} (named : scenarioPath options = .ok path)
    (described : Scenario.ofFile service.reader service.files path = .ok scenario) :
    AsksFor service scenario (.load options)
  | text {text : String} (described : Scenario.ofText service.reader text = .ok scenario) :
    AsksFor service scenario (.sendFile text)

/-- A command that asks for a run of a scenario starts it, if the machine can. If it cannot, the
run that the session had is lost. -/
theorem run_perform_of_asksFor {service : Service μ} {opcode : UInt8} {scenario : Scenario}
    {command : Command} (asks : service.AsksFor scenario command) (session : Session μ) :
    (service.perform opcode command).run session =
      match service.threadFault? session.nextId with
      | none => .ok (.status (.ok opcode)) (session.load service.movement scenario)
      | some reason => .error (.error (threadError reason)) session.withoutRun := by
  have launched : (do service.launch scenario; return Reply.status (.ok opcode)).run session =
      match service.threadFault? session.nextId with
      | none => .ok (.status (.ok opcode)) (session.load service.movement scenario)
      | some reason => .error (.error (threadError reason)) session.withoutRun := by
    rw [EStateM.run_bind, run_launch]
    cases service.threadFault? session.nextId <;> rfl
  cases asks with
  | file named described =>
    rw [perform, named, pureResult_ok, pure_bind, described, pureResult_ok, pure_bind]
    exact launched
  | text described =>
    rw [perform, described, pureResult_ok, pure_bind]
    exact launched

/-- A command that is about a scenario but has none to run does nothing. -/
theorem keeps_perform_of_not_asksFor {service : Service μ} {opcode : UInt8} {command : Command}
    (about : (∃ options, command = .load options) ∨ ∃ text, command = .sendFile text)
    (asksFor : ∀ scenario, ¬ service.AsksFor scenario command) :
    Keeps (service.perform opcode command) := by
  obtain ⟨options, rfl⟩ | ⟨text, rfl⟩ := about
  · rw [perform]
    cases named : scenarioPath options with
    | error cause => exact .throw (Lapse.error cause)
    | ok path =>
      rw [pureResult_ok, pure_bind]
      cases described : Scenario.ofFile service.reader service.files path with
      | error cause => exact .throw (Lapse.error cause)
      | ok scenario => exact absurd (.file named described) (asksFor scenario)
  · rw [perform]
    cases described : Scenario.ofText service.reader text with
    | error cause => exact .throw (Lapse.error cause)
    | ok scenario => exact absurd (.text described) (asksFor scenario)

/-- Every command owns up to what it does, but for steps and for commands that ask for a run. -/
theorem owns_perform (service : Service μ) (opcode : UInt8) {command : Command}
    (other : ∀ target, command ≠ .simStep target)
    (asksFor : ∀ scenario, ¬ service.AsksFor scenario command) :
    Owns (service.perform opcode command) := by
  cases command with
  | getVersion | setOrder | subscribe => exact .of_keeps (.pure _)
  | load options => exact .of_keeps (keeps_perform_of_not_asksFor (.inl ⟨options, rfl⟩) asksFor)
  | sendFile text => exact .of_keeps (keeps_perform_of_not_asksFor (.inr ⟨text, rfl⟩) asksFor)
  | close => exact fun session => .inr ⟨_, _, rfl, acknowledges_done opcode⟩
  | simStep target => exact absurd rfl (other target)
  | get domain variableId element =>
    exact .of_keeps (keeps_performGet service opcode domain variableId element)
  | set domain variableId element value =>
    exact owns_performSet opcode domain variableId element value

variable {service : Service μ} {frame : Frame} {session : Session μ}

theorem keeps_tell (opcode : UInt8) (cause : Error) (packet : Packet) :
    Keeps (tell opcode cause packet : Performance μ (Packet × Flow)) := by
  unfold tell
  split
  · exact .throw (Lapse.error cause)
  · exact (keeps_pureResult _).bind fun told => .pure _

/-- Whatever becomes of the reply, the session is left as the command left it. -/
theorem stateBehind_answerFrame (service : Service μ) (frame : Frame) (packet : Packet)
    (session : Session μ) :
    stateBehind ((service.answerFrame frame packet).run session) =
      service.sessionBehind frame session := by
  rw [sessionBehind, EStateM.run, EStateM.run, answerFrame]
  cases service.attempt frame session with
  | error lapse after =>
    cases lapse with
    | endless => rfl
    | error cause => exact keeps_tell frame.opcode cause packet after
  | ok answered after =>
    obtain ⟨reply, flow⟩ := answered
    simp only
    split
    · rfl
    · exact keeps_tell ..

section Performed

variable {command : Command} {reply : Reply} {after : Session μ}

theorem run_attempt_of_ok (read : Command.ofFrame service.table frame = .ok command) :
    (service.attempt frame).run session =
      match (service.perform frame.opcode command).run session with
      | .ok reply after => .ok (reply, flowOf command) after
      | .error lapse after => .error lapse after := by
  rw [attempt_of_ok read, EStateM.run_bind]
  cases (service.perform frame.opcode command).run session <;> rfl

theorem react_of_error {cause : Error}
    (read : Command.ofFrame service.table frame = .ok command)
    (failed : (service.perform frame.opcode command).run session = .error (.error cause) after) :
    service.react frame session =
      some ⟨.status (refusal frame.opcode cause), .stay, after⟩ := by
  rw [react, run_attempt_of_ok read, failed]
  rfl

theorem react_of_acknowledges (read : Command.ofFrame service.table frame = .ok command)
    (performed : (service.perform frame.opcode command).run session = .ok reply after)
    (acknowledges : reply.Acknowledges) :
    service.react frame session = some ⟨reply, flowOf command, after⟩ := by
  obtain ⟨-, front, written⟩ := acknowledges
  obtain ⟨payload, -, -, encoded, -⟩ := Reply.write_eq_ok_iff.mp written
  rw [react, run_attempt_of_ok read, performed]
  simp only [reactionTo, encoded]

theorem sessionBehind_of_error {cause : Error}
    (refused : Command.ofFrame service.table frame = .error cause) :
    service.sessionBehind frame session = session := by
  rw [sessionBehind, run_attempt_of_error refused, stateBehind]

theorem sessionBehind_of_ok (read : Command.ofFrame service.table frame = .ok command) :
    service.sessionBehind frame session =
      stateBehind ((service.perform frame.opcode command).run session) := by
  rw [sessionBehind, run_attempt_of_ok read]
  cases (service.perform frame.opcode command).run session <;> rfl

end Performed

variable {target : Double} {run : Run μ} {reaction : Reaction μ}

theorem sessionBehind_simStep_of_busy
    (read : Command.ofFrame service.table frame = .ok (.simStep target))
    (busy : session.lifecycle ≠ .loadedIdle) : service.sessionBehind frame session = session := by
  obtain ⟨cause, unusable⟩ := Session.exists_usable_eq_error busy
  rw [sessionBehind_of_ok read, run_perform_simStep, Session.step_of_unusable unusable, stateBehind]

/-- What a step does to a session that waits for one, and how it is answered. The steps are made,
and the answer is an error if they ended the run, and a success if the run waits again. The counter
of the session has gone on by the number of steps and by what the movement wrote to it, so it is
greater than before unless the movement writes to it or it has started again from zero. -/
structure Stepped (service : Service μ) (target : Double) (session : Session μ) (run : Run μ)
    (count : Nat) (course : Course μ) (ending : StepEnd) (reaction : Reaction μ) : Prop where
  loaded : session.run? = some run
  takes : Course.Takes service.movement run.scenario (targetOf target) run.course count course
    ending
  behind : reaction.session = session.behind run course ending
  err_iff : reaction.reply.head.code = .err ↔
    reaction.session.lifecycle = .finished ∨ ∃ reason, reaction.session.lifecycle = .failed reason
  ok_iff : reaction.reply.head.code = .ok ↔ reaction.session.lifecycle = .loadedIdle
  counts : course.world.step = run.course.world.step + .ofNat count +
    Course.written service.movement run.scenario.stepLength (ending.attempts count) run.course
  ok_iff_of_leavesCount : service.movement.LeavesCount →
    run.course.world.step.toNat + count < UInt64.size →
    (reaction.reply.head.code = .ok ↔
      reaction.session.lifecycle = .loadedIdle ∧ run.course.world.step < course.world.step)

theorem exists_react (goes : ¬ service.Stalls frame session) :
    ∃ reaction, service.react frame session = some reaction :=
  Option.ne_none_iff_exists'.mp fun none => goes (react_eq_none_iff.mp none)

theorem not_stalls_of_read {command : Command}
    (read : Command.ofFrame service.table frame = .ok command)
    (other : ∀ target, command ≠ .simStep target) : ¬ service.Stalls frame session := by
  rintro ⟨target, run, read', -⟩
  exact other target (Except.ok.inj (read.symm.trans read'))

theorem not_stalls_of_takes {count : Nat} {course : Course μ} {ending : StepEnd}
    (read : Command.ofFrame service.table frame = .ok (.simStep target))
    (loaded : session.run? = some run)
    (takes : Course.Takes service.movement run.scenario (targetOf target) run.course count course
      ending) : ¬ service.Stalls frame session := by
  rintro ⟨target', run', read', loaded', -, endless⟩
  obtain ⟨⟩ := Except.ok.inj (read.symm.trans read')
  obtain rfl := Option.some.inj (loaded.symm.trans loaded')
  cases takes.advance_eq.symm.trans endless

section Takes

variable {count : Nat} {course : Course μ} {ending : StepEnd}

theorem run_perform_simStep_of_takes (opcode : UInt8) (loaded : session.run? = some run)
    (waits : run.outcome = none)
    (takes : Course.Takes service.movement run.scenario (targetOf target) run.course count course
      ending) :
    (service.perform opcode (.simStep target)).run session =
      match (session.behind run course ending).usable with
      | .error cause => .error (.error cause) (session.behind run course ending)
      | .ok _ => .ok (.simTime (.ok opcode) (.integer 0)) (session.behind run course ending) := by
  have made := Session.step_eq_ok_iff.mpr
    ⟨run, course, ending, loaded, waits, takes.advance_eq, rfl⟩
  have performed := run_perform_simStep service opcode target session
  rw [made] at performed
  exact performed

/-- A step behind which the run waits again is acknowledged. -/
theorem react_of_paused {time : Double}
    (read : Command.ofFrame service.table frame = .ok (.simStep target))
    (loaded : session.run? = some run) (waits : run.outcome = none)
    (takes : Course.Takes service.movement run.scenario (targetOf target) run.course count course
      (.paused time)) :
    service.react frame session = some ⟨.simTime (.ok frame.opcode) (.integer 0), .stay,
      session.behind run course (.paused time)⟩ := by
  obtain ⟨again, usable⟩ :=
    Session.exists_usable_eq_ok (session.lifecycle_behind waits course (.paused time))
  have performed := run_perform_simStep_of_takes frame.opcode loaded waits takes
  simp only [usable] at performed
  exact react_of_acknowledges read performed (acknowledges_simTime frame.opcode)

/-- A step that ends the run is answered with an error. -/
theorem exists_react_of_ended (read : Command.ofFrame service.table frame = .ok (.simStep target))
    (loaded : session.run? = some run) (waits : run.outcome = none)
    (takes : Course.Takes service.movement run.scenario (targetOf target) run.course count course
      ending) (ended : ending.lifecycle ≠ .loadedIdle) :
    ∃ cause, service.react frame session = some ⟨.status (refusal frame.opcode cause), .stay,
      session.behind run course ending⟩ := by
  rw [← session.lifecycle_behind waits course ending] at ended
  obtain ⟨cause, unusable⟩ := Session.exists_usable_eq_error ended
  have performed := run_perform_simStep_of_takes frame.opcode loaded waits takes
  simp only [unusable] at performed
  exact ⟨cause, react_of_error read performed⟩

/-- A step of a session that waits for one is answered as it ended. -/
theorem stepped_of_takes (read : Command.ofFrame service.table frame = .ok (.simStep target))
    (loaded : session.run? = some run) (waits : run.outcome = none)
    (takes : Course.Takes service.movement run.scenario (targetOf target) run.course count course
      ending) (reacted : service.react frame session = some reaction) :
    service.Stepped target session run count course ending reaction := by
  have stands := session.lifecycle_behind waits course ending
  by_cases again : ending.lifecycle = .loadedIdle
  · cases ending with
    | completed | failed => cases again
    | paused time =>
      obtain rfl := Option.some.inj ((react_of_paused read loaded waits takes).symm.trans reacted)
      refine ⟨loaded, takes, rfl, ?_, ?_, takes.step_eq, fun leaves fits => ?_⟩
      · simp [stands, again, Reply.head, Status.ok]
      · simp [stands, again, Reply.head, Status.ok]
      · simp [stands, again, Reply.head, Status.ok, takes.lt_of_leavesCount leaves fits]
  · obtain ⟨cause, reacted'⟩ := exists_react_of_ended read loaded waits takes again
    obtain rfl := Option.some.inj (reacted'.symm.trans reacted)
    have ended : ending.lifecycle = .finished ∨ ∃ reason, ending.lifecycle = .failed reason := by
      cases ending with
      | paused time => exact absurd rfl again
      | completed => exact .inl rfl
      | failed reason => exact .inr ⟨reason, rfl⟩
    refine ⟨loaded, takes, rfl, ?_, ?_, takes.step_eq, fun leaves fits => ?_⟩
    · simp [stands, ended, refusal, Reply.head, Status.err]
    · simp [stands, again, refusal, Reply.head, Status.err]
    · simp [stands, again, refusal, Reply.head, Status.err]

end Takes

/-- The steps of a session that waits for one go on for ever, or they are made. -/
theorem exists_stepped (read : Command.ofFrame service.table frame = .ok (.simStep target))
    (idle : session.lifecycle = .loadedIdle) (reacted : service.react frame session = some reaction) :
    ∃ run count course ending, service.Stepped target session run count course ending reaction := by
  obtain ⟨run, loaded, waits⟩ := Session.exists_run_of_loadedIdle idle
  cases advanced : run.course.advance service.movement run.scenario (targetOf target) with
  | none =>
    have stalls : service.Stalls frame session := ⟨target, run, read, loaded, waits, advanced⟩
    cases (react_eq_none_iff.mpr stalls).symm.trans reacted
  | some last =>
    obtain ⟨course, ending⟩ := last
    obtain ⟨count, takes⟩ := Course.exists_takes_of_advance advanced
    exact ⟨run, count, course, ending, stepped_of_takes read loaded waits takes reacted⟩

/-- The command asks for a run that the machine cannot start. It is answered with the reason, and
the run that the session had is lost. -/
structure LosesRun (service : Service μ) (frame : Frame) (session : Session μ)
    (reaction : Reaction μ) : Prop where
  asks : ∃ command scenario, Command.ofFrame service.table frame = .ok command ∧
    service.AsksFor scenario command
  told : ∃ reason, service.threadFault? session.nextId = some reason ∧
    reaction.reply = .status (refusal frame.opcode (threadError reason))
  lost : reaction.session = session.withoutRun

/-- A command whose reply does not acknowledge it has done nothing, or has lost the run. -/
theorem session_of_not_acknowledges (reacted : service.react frame session = some reaction)
    (other : ∀ target, Command.ofFrame service.table frame = .ok (.simStep target) →
      session.lifecycle ≠ .loadedIdle)
    (refused : ¬ reaction.reply.Acknowledges) :
    reaction.session = session ∨ service.LosesRun frame session reaction := by
  have behind := (reacts_of_react reacted).session
  cases read : Command.ofFrame service.table frame with
  | error cause =>
    rw [sessionBehind_of_error read] at behind
    exact .inl behind
  | ok command =>
    by_cases step : ∃ target, command = .simStep target
    · obtain ⟨target, rfl⟩ := step
      rw [sessionBehind_simStep_of_busy read (other target read)] at behind
      exact .inl behind
    · by_cases asks : ∃ scenario, service.AsksFor scenario command
      · obtain ⟨scenario, asks⟩ := asks
        have performed : (service.perform frame.opcode command).run session = _ :=
          run_perform_of_asksFor asks session
        cases fault : service.threadFault? session.nextId with
        | none =>
          simp only [fault] at performed
          rw [react_of_acknowledges read performed (acknowledges_done frame.opcode)] at reacted
          obtain rfl := Option.some.inj reacted
          exact absurd (acknowledges_done frame.opcode) refused
        | some reason =>
          simp only [fault] at performed
          rw [react_of_error read performed] at reacted
          obtain rfl := Option.some.inj reacted
          exact .inr ⟨⟨command, scenario, read, asks⟩, ⟨reason, fault, rfl⟩, rfl⟩
      · have owns := owns_perform service frame.opcode (not_exists.mp step) (not_exists.mp asks)
        rcases owns session with kept | ⟨reply, after, performed, acknowledges⟩
        · rw [behind, sessionBehind_of_ok read]
          exact .inl kept
        · rw [react_of_acknowledges read performed acknowledges] at reacted
          obtain rfl := Option.some.inj reacted
          exact absurd acknowledges refused

private def faltering : Movement Unit where
  start _ := ()
  update _ world _ := ⟨(), world, some (.panic none)⟩

private def walker : Service Unit where
  config := { versionText := "v" }
  table := .standard
  movement := faltering

private def walk : Session Unit := ⟨some (.start faltering 1 { name := "walk" }), 2⟩

private def stride : Frame := ⟨0x02, writeDouble .zero⟩

private def strider : Service Unit := { walker with movement := .constantVelocity }

private def exhausted : Service Unit where
  config := { versionText := "v" }
  table := .standard
  movement := .constantVelocity
  reader _ := .ok { name := "run" }
  threadFault? _ := some "no threads left"

end Service

end RemoteCrowd
