import Mathlib.Data.List.Perm.Basic
import RemoteCrowd.Proofs.Service.Refusal
import RemoteCrowd.Proofs.Simulation.Changing

/-!
Commands about single persons. A command to set a variable of a person changes this person and
nothing else, so commands that name different persons can change places. The position that a
person is given stays until something moves the person, and it can be asked for by any spelling of
the id.
-/

namespace RemoteCrowd

open Wire

variable {μ : Type}

namespace Service

variable {service : Service μ} {frame : Frame} {session : Session μ} {variableId opcode : UInt8}
  {element : String} {value : Value} {id : Int32}

/-- A value that a variable may be given is one that it can have. -/
theorem settable_eq_ok {asked : PersonVariable} (allowed : settable variableId value = .ok asked) :
    asked.id = variableId ∧ ∃ change, World.personChange asked value = .ok change := by
  obtain ⟨asked', known, writes⟩ := bind_eq_ok_iff.mp allowed
  split at writes
  · obtain ⟨_, typed, same⟩ := bind_eq_ok_iff.mp writes
    obtain rfl := Except.ok.inj same
    refine ⟨PersonVariable.ofId_eq_ok_iff.mp known, ?_⟩
    have type : value.type = asked'.type := by
      unfold Value.expect at typed
      split at typed
      · assumption
      · cases typed
    cases asked' with
    | speed =>
      cases value <;> cases type
      exact ⟨_, rfl⟩
    | position =>
      cases value <;> cases type
      exact ⟨_, rfl⟩
    | idList | count | position3D => exact ⟨id, rfl⟩
  · cases writes

theorem perform_set (service : Service μ) (opcode variableId : UInt8) (element : String)
    (value : Value) :
    service.perform opcode (.set .person variableId element value) = (do
      let asked ← pureResult (settable variableId value)
      access (World.setPersonValue asked element value)
      return .status (.ok opcode)) := rfl

theorem run_perform_set_of_error {cause : Error}
    (refused : settable variableId value = .error cause) (session : Session μ) :
    (service.perform opcode (.set .person variableId element value)).run session =
      .error (.error cause) session := by
  rw [perform_set, refused]
  rfl

/-- A command to give a variable of a person a value that it can have looks for the person, and
changes the one that is found. -/
theorem run_perform_set {asked : PersonVariable} {change : Pedestrian → Pedestrian}
    (allowed : settable variableId value = .ok asked)
    (made : World.personChange asked value = .ok change) (session : Session μ) :
    (service.perform opcode (.set .person variableId element value)).run session =
      match session.world >>= fun world => world.locate element with
      | .error cause => .error (.error cause) session
      | .ok (id, _) => .ok (.status (.ok opcode)) (session.changePerson id change) := by
  rw [perform_set, allowed, pureResult_ok, pure_bind, EStateM.run_bind, run_access, Session.world]
  cases usable : session.usable with
  | error cause => rfl
  | ok run =>
    simp only [World.run_setPersonValue, made, bind, Except.bind, pure, Except.pure]
    cases run.course.world.locate element with
    | error cause => exact congrArg _ (Session.setWorld_of_usable usable)
    | ok located =>
      obtain ⟨id, pedestrian⟩ := located
      have changed : session.setWorld (run.course.world.modifyPerson id change) =
          session.changePerson id change := by
        rw [Session.changePerson_of_usable usable, Session.setWorld,
          (Session.usable_eq_ok_iff.mp usable).1]
        rfl
      exact congrArg (EStateM.Result.ok (Reply.status (.ok opcode))) changed

/-- A command to give a variable a value that it can have changes the person whose id is spelled,
if there is one. -/
theorem sessionBehind_of_settable {asked : PersonVariable} {change : Pedestrian → Pedestrian}
    (read : Command.ofFrame service.table frame = .ok (.set .person variableId element value))
    (allowed : settable variableId value = .ok asked)
    (made : World.personChange asked value = .ok change) (session : Session μ) :
    service.sessionBehind frame session =
      match Text.int32? element with
      | some id => session.changePerson id change
      | none => session := by
  rw [sessionBehind_of_ok read, run_perform_set allowed made, Session.world]
  cases usable : session.usable with
  | error cause =>
    simp only [Session.changePerson_of_error usable]
    cases Text.int32? element <;> rfl
  | ok run =>
    cases looked : run.course.world.locate element with
    | ok located =>
      obtain ⟨id, pedestrian⟩ := located
      obtain ⟨spelled, found⟩ := World.locate_eq_ok_iff.mp looked
      simp only [bind, Except.bind, pure, Except.pure, looked, spelled, stateBehind]
    | error cause =>
      simp only [bind, Except.bind, pure, Except.pure, looked, stateBehind]
      cases spelled : Text.int32? element with
      | none => rfl
      | some id =>
        refine (Session.changePerson_eq_self fun run' pedestrian usable' found => ?_).symm
        obtain rfl := Except.ok.inj (usable.symm.trans usable')
        cases looked.symm.trans (World.locate_eq_ok_iff.mpr ⟨spelled, found⟩)

/-- A command to set a variable of a person does to every session what some change of this one
person does. Only if it sets the position, the change moves somebody. -/
theorem exists_changePerson_of_set
    (read : Command.ofFrame service.table frame = .ok (.set .person variableId element value)) :
    ∃ change : Pedestrian → Pedestrian,
      (∀ session, service.sessionBehind frame session =
        match Text.int32? element with
        | some id => session.changePerson id change
        | none => session) ∧
      (variableId ≠ PersonVariable.position.id →
        ∀ pedestrian, (change pedestrian).position = pedestrian.position) := by
  cases allowed : settable variableId value with
  | error cause =>
    refine ⟨fun pedestrian => pedestrian, fun session => ?_, fun _ _ => rfl⟩
    simp only [sessionBehind_of_ok read, run_perform_set_of_error allowed, stateBehind,
      Session.changePerson_eq_self fun _ _ _ _ => rfl]
    cases Text.int32? element <;> rfl
  | ok asked =>
    obtain ⟨rfl, change, made⟩ := settable_eq_ok allowed
    refine ⟨change, sessionBehind_of_settable read allowed made, fun other => ?_⟩
    exact World.position_of_personChange made (ne_of_apply_ne PersonVariable.id other)

/-- A command to give a person a value that it can have is answered OK, and only the person is
changed. -/
theorem react_set {asked : PersonVariable} {change : Pedestrian → Pedestrian} {run : Run μ}
    {pedestrian : Pedestrian}
    (read : Command.ofFrame service.table frame = .ok (.set .person variableId element value))
    (allowed : settable variableId value = .ok asked)
    (made : World.personChange asked value = .ok change)
    (spelled : Text.int32? element = some id) (usable : session.usable = .ok run)
    (found : run.course.world.crowd.find? id = some pedestrian) :
    service.react frame session =
      some ⟨.status (.ok frame.opcode), .stay, session.changePerson id change⟩ := by
  refine react_of_acknowledges read ?_ (acknowledges_done frame.opcode)
  have looked := World.locate_eq_ok_iff.mpr ⟨spelled, found⟩
  rw [run_perform_set allowed made, Session.world, usable]
  simp only [bind, Except.bind, pure, Except.pure, looked]

/-- The person that a command is to set a variable of, by its id. -/
def named? (service : Service μ) (frame : Frame) : Option Int32 :=
  match Command.ofFrame service.table frame with
  | .ok (.set .person _ element _) => Text.int32? element
  | _ => none

/-- A command may move a person: a step, a scenario that is loaded, the end of the session, or a
command to set the position of the person. So may a command for a run that the machine cannot
start, since the person is lost with the present run. -/
def MayMove (service : Service μ) (id : Int32) (frame : Frame) (session : Session μ) : Prop :=
  match Command.ofFrame service.table frame with
  | .ok (.simStep _) => True
  | .ok (.load _) | .ok (.sendFile _) | .ok .close =>
    ∃ reaction, service.react frame session = some reaction ∧
      (reaction.reply.head.code = .ok ∨ service.LosesRun frame session reaction)
  | .ok (.set .person variableId element _) =>
    variableId = PersonVariable.position.id ∧ Text.int32? element = some id
  | _ => False

/-- None of the commands that are performed one after another may move a person. -/
def Spares (service : Service μ) (id : Int32) : List Frame → Session μ → Prop
  | [], _ => True
  | frame :: rest, session =>
    ¬ service.MayMove id frame session ∧ Spares service id rest (service.sessionBehind frame session)

variable {position : Point}

/-- What a command that may not move a person does to a session: nothing at all, or a change of one
person that is somebody else or stays in place. -/
theorem sessionBehind_of_not_mayMove (spared : ¬ service.MayMove id frame session) :
    service.sessionBehind frame session = session ∨
      ∃ other change, service.sessionBehind frame session = session.changePerson other change ∧
        (other = id → ∀ pedestrian, (change pedestrian).position = pedestrian.position) := by
  unfold MayMove at spared
  cases read : Command.ofFrame service.table frame with
  | error cause => exact .inl (sessionBehind_of_error read)
  | ok command =>
    rw [read] at spared
    cases command with
    | simStep target => exact absurd trivial spared
    | load | sendFile | close =>
      have goes : ¬ service.Stalls frame session := not_stalls_of_read read fun _ => nofun
      obtain ⟨reaction, reacted⟩ := exists_react goes
      have same := (reacts_of_react reacted).session
      refine .inl (same.symm.trans ?_)
      refine (session_of_not_acknowledges reacted ?_ ?_).resolve_right ?_
      · intro target read'
        cases read.symm.trans read'
      · intro acknowledges
        exact spared ⟨reaction, reacted, .inl acknowledges.1⟩
      · intro loses
        exact spared ⟨reaction, reacted, .inr loses⟩
    | getVersion | setOrder | subscribe =>
      left
      rw [sessionBehind_of_ok read]
      exact Keeps.pure _ session
    | get domain variableId element =>
      left
      rw [sessionBehind_of_ok read]
      exact keeps_performGet service frame.opcode domain variableId element session
    | set domain variableId element value =>
      by_cases person : domain = .person
      · subst person
        obtain ⟨change, changed, apart⟩ := exists_changePerson_of_set read
        have changed := changed session
        cases spelled : Text.int32? element with
        | none =>
          rw [spelled] at changed
          exact .inl changed
        | some other =>
          rw [spelled] at changed
          refine .inr ⟨other, change, changed, fun same => apart fun position => spared ?_⟩
          exact ⟨position, same ▸ spelled⟩
      · left
        rw [sessionBehind_of_ok read]
        cases domain <;> first | exact Keeps.pure _ session | exact absurd rfl person

/-- A command to load a scenario from nowhere moves nobody. -/
theorem not_mayMove_of_pathless {options : List String}
    (read : Command.ofFrame service.table frame = .ok (.load options))
    (pathless : scenarioPath? options = none) : ¬ service.MayMove id frame session := by
  have refused : scenarioPath options = .error (.load (.noScenarioOption options)) := by
    rw [scenarioPath, pathless]
  have failed : (service.perform frame.opcode (.load options)).run session =
      .error (.error (.load (.noScenarioOption options))) session := by
    rw [perform, refused]
    rfl
  rw [MayMove, read]
  rintro ⟨reaction, reacted, succeeds | loses⟩
  all_goals rw [react_of_error read failed] at reacted
  all_goals obtain rfl := Option.some.inj reacted
  · cases succeeds
  · obtain ⟨command, scenario, read', asks⟩ := loses.asks
    obtain rfl := Except.ok.inj (read.symm.trans read')
    cases asks with
    | file named described => cases refused.symm.trans named

theorem hasAt_sessionBehind (stands : session.HasAt id position)
    (spared : ¬ service.MayMove id frame session) :
    (service.sessionBehind frame session).HasAt id position := by
  rcases sessionBehind_of_not_mayMove spared with same | ⟨other, change, changed, apart⟩
  · rw [same]
    exact stands
  · rw [changed]
    exact stands.changePerson apart

theorem hasAt_through {frames : List Frame} (stands : session.HasAt id position)
    (spared : service.Spares id frames session) :
    (service.through frames session).HasAt id position := by
  induction frames generalizing session with
  | nil => exact stands
  | cons frame rest ih => exact ih (hasAt_sessionBehind stands spared.1) spared.2

/-- A question for a variable of the persons is answered with its value, and under the name that
was asked for. -/
theorem react_get {asked : PersonVariable} {content : Bytes}
    (read : Command.ofFrame service.table frame = .ok (.get .person asked.id element))
    (given : (session.world >>= World.personValue asked element) = .ok value)
    (encodes : value.write = .ok content) :
    service.react frame session =
      some ⟨.value (.ok frame.opcode) (service.table.opcodeOf (.getResponse .person)) asked.id
        element value, .stay, session⟩ := by
  have known : PersonVariable.ofId asked.id = .ok asked := PersonVariable.ofId_eq_ok_iff.mpr rfl
  have performed : (service.perform frame.opcode (.get .person asked.id element)).run session =
      .ok (.value (.ok frame.opcode) (service.table.opcodeOf (.getResponse .person)) asked.id
        element value) session := by
    have asking : service.perform frame.opcode (.get .person asked.id element) = (do
        let asked' ← pureResult (PersonVariable.ofId asked.id)
        return Reply.value (.ok frame.opcode) (service.table.opcodeOf (.getResponse .person))
          asked.id element (← inspect (World.personValue asked' element))) := rfl
    rw [asking, known, pureResult_ok, pure_bind, EStateM.run_bind, run_inspect, given]
    rfl
  obtain ⟨-, -, written⟩ := Command.ofFrame_eq_ok_iff_lookup.mp read
  obtain ⟨name, named, -⟩ := Command.writeArguments_get_eq_ok_iff.mp written
  rw [react, run_attempt_of_ok read, performed]
  simp only [reactionTo, Reply.writePayload, named, encodes]
  rfl

/-- Whatever spelling of the id a question for the position has, it is answered with the given
position, on the plane or above it. -/
structure Shows (service : Service μ) (id : Int32) (position : Point) (session : Session μ) :
    Prop where
  plane : ∀ frame element, Text.int32? element = some id →
    Command.ofFrame service.table frame = .ok (.get .person PersonVariable.position.id element) →
    service.react frame session =
      some ⟨.value (.ok frame.opcode) (service.table.opcodeOf (.getResponse .person))
        PersonVariable.position.id element (.position2D position), .stay, session⟩
  space : ∀ frame element, Text.int32? element = some id →
    Command.ofFrame service.table frame =
      .ok (.get .person PersonVariable.position3D.id element) →
    service.react frame session =
      some ⟨.value (.ok frame.opcode) (service.table.opcodeOf (.getResponse .person))
        PersonVariable.position3D.id element (.position3D position.x position.y .zero), .stay,
        session⟩

theorem shows_of_hasAt (stands : session.HasAt id position) :
    service.Shows id position session := by
  obtain ⟨run, pedestrian, usable, found, rfl⟩ := stands
  have world : session.world = .ok run.course.world := by
    rw [Session.world, usable]
    rfl
  constructor
  all_goals
    intro frame element spelled read
    refine react_get read ?_ rfl
    rw [world]
    simp only [bind, Except.bind, World.personValue, World.find_of_spelled spelled found]
    rfl

theorem exists_changePerson_of_named (named : service.named? frame = some id) :
    ∃ change, ∀ session,
      service.sessionBehind frame session = session.changePerson id change := by
  unfold named? at named
  split at named
  · next variableId element value read =>
    obtain ⟨change, changed, -⟩ := exists_changePerson_of_set read
    rw [named] at changed
    exact ⟨change, changed⟩
  · cases named

/-- Commands that set variables of different persons can change places. -/
theorem through_of_perm {frames others : List Frame}
    (names : ∀ frame ∈ frames, (service.named? frame).isSome)
    (different : (frames.map service.named?).Nodup) (same : frames.Perm others)
    (session : Session μ) : service.through frames session = service.through others session := by
  refine same.foldl_eq' (fun first member second member' session => ?_) session
  by_cases again : service.named? first = service.named? second
  · rw [List.inj_on_of_nodup_map different member member' again]
  · obtain ⟨id, named⟩ := Option.isSome_iff_exists.mp (names first member)
    obtain ⟨other, named'⟩ := Option.isSome_iff_exists.mp (names second member')
    have apart : id ≠ other := by
      rintro rfl
      exact again (named.trans named'.symm)
    obtain ⟨change, changed⟩ := exists_changePerson_of_named named
    obtain ⟨change', changed'⟩ := exists_changePerson_of_named named'
    rw [changed, changed', changed', changed]
    exact Session.changePerson_changePerson_comm session apart

/-- The command in the frame is answered OK, and it changes one person into the given one, and
nothing else. -/
structure Sets (service : Service μ) (id : Int32) (changed : Pedestrian) (frame : Frame)
    (session : Session μ) : Prop where
  reacts : service.react frame session =
    some ⟨.status (.ok frame.opcode), .stay, service.sessionBehind frame session⟩
  changes : session.ChangesOnly id changed (service.sessionBehind frame session)

theorem sets_of_settable {asked : PersonVariable} {change : Pedestrian → Pedestrian}
    {run : Run μ} {pedestrian : Pedestrian} (usable : session.usable = .ok run)
    (found : run.course.world.crowd.find? id = some pedestrian)
    (spelled : Text.int32? element = some id)
    (read : Command.ofFrame service.table frame = .ok (.set .person variableId element value))
    (allowed : settable variableId value = .ok asked)
    (made : World.personChange asked value = .ok change) :
    service.Sets id (change pedestrian) frame session := by
  have done := react_set read allowed made spelled usable found
  have behind : service.sessionBehind frame session = session.changePerson id change :=
    (reacts_of_react done).session.symm
  constructor
  · rw [behind]
    exact done
  · rw [behind]
    exact Session.changesOnly_changePerson usable found

private def guide : Service Unit where
  config := { versionText := "v" }
  table := .standard
  movement := .constantVelocity

private def square : Scenario where
  name := "square"
  pedestrians := [⟨7, .origin, ⟨.ofNat 3, .ofNat 4⟩⟩, ⟨-3, .origin, .origin⟩]

private def meeting : Session Unit := Session.load .constantVelocity square {}

/-- The frame of a command to set a variable of a person. -/
private def setting (variableId : UInt8) (element : String) (value : Bytes) : Frame :=
  ⟨0xce, variableId :: bigEndian 4 element.length ++ asciiBytes element ++ value⟩

private def place : Point := ⟨.ofNat 2, ⟨0x8000000000000000⟩⟩

end Service

end RemoteCrowd
