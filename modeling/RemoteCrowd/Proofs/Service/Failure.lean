import RemoteCrowd.Proofs.Simulation.Run
import RemoteCrowd.Proofs.Unwritable
import RemoteCrowd.Proofs.Wire.Malformed
import RemoteCrowd.Service.Basic

/-!
What goes wrong with a command is told to the client: neither reading nor performing a command, nor
writing its reply, fails with an error that ends the connection. Only steps can go on for ever, and
then there is nothing to be told.
-/

namespace RemoteCrowd

open Wire Service

variable {μ : Type}

/-- The error leaves the connection open. -/
def Error.IsTold (cause : Error) : Prop := cause.isFatal = false

/-- There is an error, and it leaves the connection open. -/
def Lapse.IsTold (lapse : Lapse) : Prop := ∃ cause, lapse = .error cause ∧ cause.IsTold

theorem Error.IsMalformed.isTold {cause : Error} (malformed : cause.IsMalformed) :
    cause.IsTold := by
  cases cause with
  | framing fault | encoding fault | unknownType tag => rfl
  | _ => exact malformed.elim

theorem Error.IsUnwritable.isTold {cause : Error} (unwritable : cause.IsUnwritable) :
    cause.IsTold := by
  obtain ⟨_, _, _, rfl⟩ | ⟨_, rfl⟩ := unwritable <;> rfl

theorem Command.isTold_of_ofFrame_eq_error {table : OpcodeTable} {frame : Frame} {cause : Error}
    (failed : Command.ofFrame table frame = .error cause) : cause.IsTold := by
  obtain ⟨root, refused, rfl⟩ := Command.ofFrame_eq_error failed
  cases refused with
  | unknown free => rfl
  | malformed known request shape =>
    have told := shape.isTold
    cases root <;> exact told

theorem Lifecycle.failsOnly_checkUsable (lifecycle : Lifecycle) :
    FailsOnly Error.IsTold lifecycle.checkUsable := by
  cases lifecycle with
  | noScenario | finished | failed reason => exact .error rfl
  | loadedIdle | stepping => exact .ok ()

namespace Session

theorem failsOnly_usable (session : Session μ) : FailsOnly Error.IsTold session.usable := by
  refine (Lifecycle.failsOnly_checkUsable _).bind fun _ => ?_
  split
  · exact .ok _
  · exact .error rfl

/-- A request to a session is refused for a reason that is told, or it never ends. -/
theorem isTold_of_step {movement : Movement μ} {target : Option Double} {session : Session μ}
    {lapse : Lapse} (failed : session.step movement target = .error lapse) :
    lapse = .endless ∨ lapse.IsTold := by
  cases usable : session.usable with
  | error cause =>
    obtain rfl := Except.error.inj ((step_of_unusable usable).symm.trans failed)
    exact .inr ⟨cause, rfl, failsOnly_usable session cause usable⟩
  | ok run =>
    rw [step_of_usable usable] at failed
    split at failed
    · cases failed
    · exact .inl (Except.error.inj failed).symm

end Session

namespace Scenario

variable (reader : Reader)

theorem failsOnly_ofText (text : String) :
    FailsOnly Error.IsTold (Scenario.ofText reader text) := by
  have read : FailsOnly Error.IsTold (described reader text) := by
    unfold described
    split
    · exact .ok _
    · exact .error rfl
  have validated : ∀ scenario : Scenario, FailsOnly Error.IsTold scenario.validate := by
    intro scenario
    unfold Scenario.validate
    split
    · exact .error rfl
    · split
      · exact .error rfl
      · split
        · exact .error rfl
        · exact .ok ()
  exact read.bind fun scenario => (validated scenario).bind fun _ => .ok scenario

theorem failsOnly_ofFile (files : Files) (path : String) :
    FailsOnly Error.IsTold (Scenario.ofFile reader files path) := by
  unfold Scenario.ofFile
  split
  · exact failsOnly_ofText _ _
  · exact .error rfl

end Scenario

theorem SimulationVariable.failsOnly_ofId (id : UInt8) :
    FailsOnly Error.IsTold (SimulationVariable.ofId id) := by
  unfold SimulationVariable.ofId
  split
  · exact .ok _
  · exact .error rfl

theorem PersonVariable.failsOnly_ofId (id : UInt8) :
    FailsOnly Error.IsTold (PersonVariable.ofId id) := by
  unfold PersonVariable.ofId
  split
  · exact .ok _
  · exact .error rfl

theorem Value.failsOnly_expect (value : Value) (expected : ValueType) :
    FailsOnly Error.IsTold (value.expect expected) := by
  unfold Value.expect
  split
  · exact .ok ()
  · exact .error rfl

theorem Value.failsOnly_asDouble (value : Value) : FailsOnly Error.IsTold value.asDouble := by
  unfold Value.asDouble
  split
  · exact .ok _
  · exact .error rfl

theorem Value.failsOnly_asPosition2D (value : Value) :
    FailsOnly Error.IsTold value.asPosition2D := by
  unfold Value.asPosition2D
  split
  · exact .ok _
  · exact .error rfl

namespace World

theorem failsOnly_locate (world : World) (element : String) :
    FailsOnly Error.IsTold (world.locate element) := by
  have parsed : FailsOnly Error.IsTold (parseId element) := by
    unfold parseId
    split
    · exact .ok _
    · exact .error rfl
  refine parsed.bind fun id => ?_
  split
  · exact .ok _
  · exact .error rfl

theorem failsOnly_personValue (asked : PersonVariable) (element : String) (world : World) :
    FailsOnly Error.IsTold (world.personValue asked element) := by
  have found : FailsOnly Error.IsTold (world.find element) :=
    (failsOnly_locate world element).bind fun _ => .ok _
  cases asked with
  | idList | count => exact .ok _
  | speed | position | position3D => exact found.bind fun _ => .ok _

theorem failsOnly_personChange (asked : PersonVariable) (value : Value) :
    FailsOnly Error.IsTold (personChange asked value) := by
  cases asked with
  | speed => exact (Value.failsOnly_asDouble value).bind fun _ => .ok _
  | position => exact (Value.failsOnly_asPosition2D value).bind fun _ => .ok _
  | idList | count | position3D => exact .ok id

theorem run_ask {α : Type} (question : World → Except Error α) (world : World) :
    (ask question).run world =
      match question world with
      | .ok answer => .ok answer world
      | .error cause => .error cause world := by
  simp only [ask, EStateM.run_bind, EStateM.run_get]
  cases question world <;> rfl

theorem throwsOnly_ask {α : Type} {question : World → Except Error α}
    (fails : ∀ world, FailsOnly Error.IsTold (question world)) :
    ThrowsOnly Error.IsTold (ask question) := by
  intro world cause after failed
  rw [run_ask] at failed
  split at failed
  · cases failed
  · next thrown refused =>
    obtain ⟨rfl, -⟩ := EStateM.Result.error.inj failed
    exact fails world thrown refused

theorem throwsOnly_setPersonValue (asked : PersonVariable) (element : String) (value : Value) :
    ThrowsOnly Error.IsTold (setPersonValue asked element value) :=
  (throwsOnly_ask fun world => failsOnly_locate world element).bind fun _ =>
    (throwsOnly_ask fun _ => failsOnly_personChange asked value).bind fun _ => nofun

end World

namespace Service

theorem pureResult_ok {α : Type} (value : α) :
    (pureResult (.ok value) : Performance μ α) = pure value := rfl

theorem throwsOnly_pureResult {α : Type} {result : Except Error α}
    (fails : FailsOnly Error.IsTold result) :
    ThrowsOnly Lapse.IsTold (pureResult result : Performance μ α) := by
  cases result with
  | ok value => exact .pure value
  | error cause => exact .throw ⟨cause, rfl, fails cause rfl⟩

theorem run_access {α : Type} (handling : World.Handling α) (session : Session μ) :
    (access handling).run session =
      match session.usable with
      | .error cause => .error (.error cause) session
      | .ok run =>
        match handling.run run.course.world with
        | .ok value world => .ok value (session.setWorld world)
        | .error cause world => .error (.error cause) (session.setWorld world) := rfl

/-- A question leaves the session as it is. -/
theorem run_inspect {α : Type} (question : World → Except Error α) (session : Session μ) :
    (inspect question).run session =
      match session.world >>= question with
      | .ok value => .ok value session
      | .error cause => .error (.error cause) session := by
  rw [inspect, run_access, Session.world]
  cases usable : session.usable with
  | error cause => rfl
  | ok run =>
    have same := Session.setWorld_of_usable usable
    simp only [World.run_ask, bind, Except.bind, pure, Except.pure]
    cases question run.course.world with
    | ok value => exact congrArg _ same
    | error cause => exact congrArg _ same

theorem run_launch (service : Service μ) (scenario : Scenario) (session : Session μ) :
    (service.launch scenario).run session =
      match service.threadFault? session.nextId with
      | none => .ok () (session.load service.movement scenario)
      | some reason => .error (.error (threadError reason)) session.withoutRun := rfl

theorem run_step (service : Service μ) (target : Option Double) (session : Session μ) :
    (service.step target).run session =
      match session.step service.movement target with
      | .ok after => .ok () after
      | .error lapse => .error lapse session := rfl

theorem throwsOnly_access {α : Type} {handling : World.Handling α}
    (throws : ThrowsOnly Error.IsTold handling) :
    ThrowsOnly Lapse.IsTold (access handling : Performance μ α) := by
  intro session lapse after failed
  rw [run_access] at failed
  split at failed
  · next cause unusable =>
    obtain ⟨rfl, -⟩ := EStateM.Result.error.inj failed
    exact ⟨cause, rfl, Session.failsOnly_usable session cause unusable⟩
  · split at failed
    · cases failed
    · next run _ cause world refused =>
      obtain ⟨rfl, -⟩ := EStateM.Result.error.inj failed
      exact ⟨cause, rfl, throws _ cause world refused⟩

theorem throwsOnly_inspect {α : Type} {question : World → Except Error α}
    (fails : ∀ world, FailsOnly Error.IsTold (question world)) :
    ThrowsOnly Lapse.IsTold (inspect question : Performance μ α) :=
  throwsOnly_access (World.throwsOnly_ask fails)

theorem throwsOnly_launch (service : Service μ) (scenario : Scenario) :
    ThrowsOnly Lapse.IsTold (service.launch scenario) := by
  intro session lapse after failed
  rw [run_launch] at failed
  split at failed
  · cases failed
  · obtain ⟨rfl, -⟩ := EStateM.Result.error.inj failed
    exact ⟨_, rfl, rfl⟩

theorem failsOnly_scenarioPath (options : List String) :
    FailsOnly Error.IsTold (scenarioPath options) := by
  unfold scenarioPath
  split
  · exact .ok _
  · exact .error rfl

theorem failsOnly_settable (variableId : UInt8) (value : Value) :
    FailsOnly Error.IsTold (settable variableId value) := by
  refine (PersonVariable.failsOnly_ofId variableId).bind fun asked => ?_
  split
  · exact (Value.failsOnly_expect value _).bind fun _ => .ok asked
  · exact .error rfl

theorem throwsOnly_performGet (service : Service μ) (opcode : UInt8) (domain : Domain)
    (variableId : UInt8) (element : String) :
    ThrowsOnly Lapse.IsTold (service.performGet opcode domain variableId element) := by
  cases domain with
  | simulation =>
    exact (throwsOnly_pureResult (SimulationVariable.failsOnly_ofId variableId)).bind fun asked =>
      (throwsOnly_inspect fun world => .ok _).bind fun _ => .pure _
  | person =>
    exact (throwsOnly_pureResult (PersonVariable.failsOnly_ofId variableId)).bind fun asked =>
      (throwsOnly_inspect (World.failsOnly_personValue asked element)).bind fun _ => .pure _
  | _ => exact .pure _

theorem throwsOnly_performSet (opcode : UInt8) (domain : Domain) (variableId : UInt8)
    (element : String) (value : Value) :
    ThrowsOnly Lapse.IsTold
      (performSet opcode domain variableId element value : Performance μ Reply) := by
  cases domain with
  | person =>
    exact (throwsOnly_pureResult (failsOnly_settable variableId value)).bind fun asked =>
      (throwsOnly_access (World.throwsOnly_setPersonValue asked element value)).bind fun _ =>
        .pure _
  | _ => exact .pure _

/-- A command that is no step comes to an end, and what goes wrong with it is told. -/
theorem throwsOnly_perform (service : Service μ) (opcode : UInt8) {command : Command}
    (other : ∀ target, command ≠ .simStep target) :
    ThrowsOnly Lapse.IsTold (service.perform opcode command) := by
  cases command with
  | getVersion | setOrder order | subscribe domain payload => exact .pure _
  | load options =>
    exact (throwsOnly_pureResult (failsOnly_scenarioPath options)).bind fun path =>
      (throwsOnly_pureResult (Scenario.failsOnly_ofFile _ _ path)).bind fun scenario =>
        (throwsOnly_launch service scenario).bind fun _ => .pure _
  | sendFile text =>
    exact (throwsOnly_pureResult (Scenario.failsOnly_ofText _ text)).bind fun scenario =>
      (throwsOnly_launch service scenario).bind fun _ => .pure _
  | simStep target => exact absurd rfl (other target)
  | close =>
    have closing : ThrowsOnly Lapse.IsTold (modify Session.close : Performance μ Unit) := nofun
    exact closing.bind fun _ => .pure _
  | get domain variableId element => exact throwsOnly_performGet service opcode _ _ _
  | set domain variableId element value => exact throwsOnly_performSet opcode _ _ _ _

/-- The time that a step is to reach, if it says so. -/
def targetOf (target : Double) : Option Double :=
  if Double.zero.lt target then some target else none

/-- A step is made, and then the session is asked whether it can go on. -/
theorem run_perform_simStep (service : Service μ) (opcode : UInt8) (target : Double)
    (session : Session μ) :
    (service.perform opcode (.simStep target)).run session =
      match session.step service.movement (targetOf target) with
      | .error lapse => .error lapse session
      | .ok after =>
        match after.usable with
        | .error cause => .error (.error cause) after
        | .ok _ => .ok (.simTime (.ok opcode) (.integer 0)) after := by
  have performed : service.perform opcode (.simStep target) = (do
      service.step (targetOf target)
      let _ ← inspect fun world => .ok world.time
      return Reply.simTime (.ok opcode) (.integer 0)) := rfl
  rw [performed, EStateM.run_bind, run_step]
  cases session.step service.movement (targetOf target) with
  | error cause => rfl
  | ok after =>
    simp only [EStateM.run_bind, run_inspect, Session.world]
    cases after.usable with
    | error cause => rfl
    | ok run => rfl

theorem run_attempt_of_error {service : Service μ} {frame : Frame} {cause : Error}
    (refused : Command.ofFrame service.table frame = .error cause) (session : Session μ) :
    (service.attempt frame).run session = .error (.error cause) session := by
  unfold attempt
  rw [refused]
  rfl

theorem attempt_of_ok {service : Service μ} {frame : Frame} {command : Command}
    (read : Command.ofFrame service.table frame = .ok command) :
    service.attempt frame = (do
      let reply ← service.perform frame.opcode command
      return (reply, flowOf command)) := by
  unfold attempt
  rw [read]
  rfl

/-- The frame is a step that meets a run whose steps have no end. -/
def Stalls (service : Service μ) (frame : Frame) (session : Session μ) : Prop :=
  ∃ target run, Command.ofFrame service.table frame = .ok (.simStep target) ∧
    session.run? = some run ∧ run.outcome = none ∧
    run.course.advance service.movement run.scenario (targetOf target) = none

/-- Steps that have no end give no answer. -/
theorem run_attempt_of_stalls {service : Service μ} {frame : Frame} {session : Session μ}
    (stalls : service.Stalls frame session) :
    (service.attempt frame).run session = .error .endless session := by
  obtain ⟨target, run, read, endless⟩ := stalls
  have made := Session.step_eq_endless_iff.mpr ⟨run, endless⟩
  rw [attempt_of_ok read, EStateM.run_bind, run_perform_simStep, made]

/-- Whatever is wrong with the command in a frame, the connection stays open, unless the command
never ends. -/
theorem isTold_of_attempt {service : Service μ} {frame : Frame} {session after : Session μ}
    {lapse : Lapse} (goes : ¬ service.Stalls frame session)
    (failed : (service.attempt frame).run session = .error lapse after) : lapse.IsTold := by
  cases read : Command.ofFrame service.table frame with
  | error cause =>
    obtain ⟨rfl, -⟩ := EStateM.Result.error.inj ((run_attempt_of_error read _).symm.trans failed)
    exact ⟨cause, rfl, Command.isTold_of_ofFrame_eq_error read⟩
  | ok command =>
    rw [attempt_of_ok read] at failed
    by_cases step : ∃ target, command = .simStep target
    · obtain ⟨target, rfl⟩ := step
      rw [EStateM.run_bind, run_perform_simStep] at failed
      cases made : session.step service.movement (targetOf target) with
      | error lapse' =>
        rw [made] at failed
        obtain ⟨rfl, -⟩ := EStateM.Result.error.inj failed
        rcases Session.isTold_of_step made with rfl | told
        · obtain ⟨run, endless⟩ := Session.step_eq_endless_iff.mp made
          exact absurd ⟨target, run, read, endless⟩ goes
        · exact told
      | ok after' =>
        simp only [made] at failed
        cases unusable : after'.usable with
        | ok run =>
          simp only [unusable] at failed
          cases failed
        | error cause =>
          simp only [unusable] at failed
          obtain ⟨rfl, -⟩ := EStateM.Result.error.inj failed
          exact ⟨cause, rfl, Session.failsOnly_usable after' cause unusable⟩
    · have throws := throwsOnly_perform service frame.opcode (not_exists.mp step)
      exact (throws.bind fun _ => .pure _) session lapse after failed

end Service

end RemoteCrowd
