import RemoteCrowd.Proofs.Service.Refusal
import RemoteCrowd.Proofs.Simulation.Course
import RemoteCrowd.Proofs.Simulation.Walking

/-!
The lifetime of a run. Commands and requests for steps come in any order, and many of them are
refused. What they can do to a session is little: load, close, step, or change the crowd. So a run
that is there at the end was there all the time since it was loaded, and its counter of steps and
its clock tell how often it has been updated.
-/

namespace RemoteCrowd

open Wire

variable {μ : Type}

/-- What a session is asked for: the command in a frame, whose reply goes into a packet, or steps to
a target, or one step without a target. -/
inductive Demand where
  | command (frame : Frame) (packet : Packet)
  | steps (target : Option Double)

/-- The same run, some updates later. -/
structure Run.Continues (movement : Movement μ) (updates : Nat) (run later : Run μ) : Prop where
  id : later.id = run.id
  scenario : later.scenario = run.scenario
  suits : movement.MovesOnly → ∀ before, run.course.Suits run.scenario before →
    later.course.Suits later.scenario (before + updates)

namespace Run.Continues

variable {movement : Movement μ}

theorem refl (run : Run μ) : Continues movement 0 run run :=
  ⟨rfl, rfl, fun _ _ suits => suits⟩

theorem trans {first second : Nat} {run later last : Run μ}
    (continues : Continues movement first run later)
    (continues' : Continues movement second later last) :
    Continues movement (first + second) run last where
  id := continues'.id.trans continues.id
  scenario := continues'.scenario.trans continues.scenario
  suits moves before suits := by
    rw [← Nat.add_assoc]
    exact continues'.suits moves _ (continues.suits moves before suits)

theorem behind {run : Run μ} {target : Option Double} {count : Nat} {course : Course μ}
    {ending : StepEnd}
    (takes : Course.Takes movement run.scenario target run.course count course ending) :
    Continues movement count run (run.behind course ending) where
  id := Run.id_behind
  scenario := Run.scenario_behind
  suits moves before suits := by
    rw [Run.course_behind, Run.scenario_behind]
    exact suits.takes moves takes

theorem setWorld {run : Run μ} {world : World} (place : run.course.world.SamePlace world) :
    Continues movement 0 run { run with course := { run.course with world } } :=
  ⟨rfl, rfl, fun _ _ suits => suits.move place run.course.memory⟩

end Run.Continues

namespace Session

/-- What a demand can make of a session, and with how many updates. -/
inductive Turns (movement : Movement μ) (session : Session μ) : Nat → Session μ → Prop where
  | keeps : Turns movement session 0 session
  | loads (scenario : Scenario) : Turns movement session 0 (session.load movement scenario)
  | loses : Turns movement session 0 session.withoutRun
  | closes : Turns movement session 0 session.close
  | steps {run : Run μ} {target : Option Double} {count : Nat} {course : Course μ}
    {ending : StepEnd} (loaded : session.run? = some run)
    (takes : Course.Takes movement run.scenario target run.course count course ending) :
    Turns movement session count (session.behind run course ending)
  | changes {run : Run μ} {world : World} (loaded : session.run? = some run)
    (place : run.course.world.SamePlace world) : Turns movement session 0 (session.setWorld world)

namespace Turns

variable {movement : Movement μ} {session after : Session μ} {updates : Nat}

theorem nextId_le (turns : session.Turns movement updates after) :
    session.nextId ≤ after.nextId := by
  cases turns with
  | loads | loses => exact Nat.le_succ session.nextId
  | keeps | closes | steps | changes => exact Nat.le_refl session.nextId

/-- A run that has not just been loaded was there before. -/
theorem continues (turns : session.Turns movement updates after) {later : Run μ}
    (loaded : after.run? = some later) (old : later.id < session.nextId) :
    ∃ run, session.run? = some run ∧ run.Continues movement updates later := by
  cases turns with
  | keeps => exact ⟨later, loaded, .refl later⟩
  | loads scenario =>
    -- the run that has just been loaded has the id that was next
    obtain rfl := Option.some.inj loaded
    exact absurd old (Nat.lt_irrefl session.nextId)
  | loses | closes => cases loaded
  | @steps run target count course ending present takes =>
    obtain rfl := Option.some.inj loaded
    exact ⟨run, present, .behind takes⟩
  | @changes run world present place =>
    rw [setWorld, present] at loaded
    obtain rfl := Option.some.inj loaded
    exact ⟨run, present, .setWorld place⟩

end Turns

end Session

namespace Service

/-- The target of the steps that a demand asks for, if it asks for any. -/
def asked? (service : Service μ) : Demand → Option (Option Double)
  | .command frame _ =>
    match Command.ofFrame service.table frame with
    | .ok (.simStep target) => some (targetOf target)
    | _ => none
  | .steps target => some target

/-- The session behind a demand. -/
def meet (service : Service μ) (session : Session μ) : Demand → Session μ
  | .command frame packet => stateBehind ((service.answerFrame frame packet).run session)
  | .steps target => stateBehind ((service.step target).run session)

/-- The number of updates that succeed while a demand is met. Steps that have no end have none. -/
inductive Updates (service : Service μ) (session : Session μ) (demand : Demand) : Nat → Prop where
  | none (still : ∀ target, service.asked? demand = some target → ∀ run, session.usable ≠ .ok run) :
    Updates service session demand 0
  | made {target : Option Double} {run : Run μ} {count : Nat} {course : Course μ}
    {ending : StepEnd} (asked : service.asked? demand = some target)
    (usable : session.usable = .ok run)
    (takes : Course.Takes service.movement run.scenario target run.course count course ending) :
    Updates service session demand count

/-- The session behind demands that are met one after another. -/
def meetAll (service : Service μ) (demands : List Demand) (session : Session μ) : Session μ :=
  demands.foldl service.meet session

/-- The number of updates that succeed while demands are met one after another. -/
inductive UpdatesOver (service : Service μ) : List Demand → Session μ → Nat → Prop where
  | nil (session : Session μ) : UpdatesOver service [] session 0
  | cons {demand : Demand} {rest : List Demand} {session : Session μ} {first later : Nat}
    (updates : service.Updates session demand first)
    (updates' : UpdatesOver service rest (service.meet session demand) later) :
    UpdatesOver service (demand :: rest) session (first + later)

variable {service : Service μ} {session : Session μ}

theorem turns_of_keeps {movement : Movement μ} {action : Performance μ Reply}
    (keeps : Keeps action) : session.Turns movement 0 (stateBehind (action.run session)) := by
  rw [keeps session]
  exact .keeps

theorem turns_performSet (movement : Movement μ) (opcode : UInt8) (domain : Domain)
    (variableId : UInt8) (element : String) (value : Value) :
    session.Turns movement 0
      (stateBehind ((performSet opcode domain variableId element value).run session)) := by
  cases domain with
  | person =>
    rw [performSet]
    cases settable variableId value with
    | error cause => exact .keeps
    | ok asked =>
      rw [pureResult_ok, pure_bind, EStateM.run_bind, run_access]
      cases usable : session.usable with
      | error cause => exact .keeps
      | ok run =>
        have loaded := (Session.usable_eq_ok_iff.mp usable).1
        have still : session.Turns movement 0 (session.setWorld run.course.world) :=
          .changes loaded (.refl _)
        simp only [World.run_setPersonValue]
        cases run.course.world.locate element with
        | error cause => exact still
        | ok located =>
          cases allowed : World.personChange asked value with
          | error cause => exact still
          | ok change =>
            exact .changes loaded
              (World.samePlace_modifyPerson (World.id_of_personChange allowed) _ _)
  | _ => exact .keeps

theorem turns_perform (service : Service μ) (opcode : UInt8) {command : Command}
    (other : ∀ target, command ≠ .simStep target) (session : Session μ) :
    session.Turns service.movement 0
      (stateBehind ((service.perform opcode command).run session)) := by
  by_cases asks : ∃ scenario, service.AsksFor scenario command
  · obtain ⟨scenario, asks⟩ := asks
    rw [run_perform_of_asksFor asks]
    cases service.threadFault? session.nextId with
    | none => exact .loads scenario
    | some reason => exact .loses
  · cases command with
    | getVersion | setOrder | subscribe => exact .keeps
    | load options =>
      exact turns_of_keeps (keeps_perform_of_not_asksFor (.inl ⟨options, rfl⟩) (not_exists.mp asks))
    | sendFile text =>
      exact turns_of_keeps (keeps_perform_of_not_asksFor (.inr ⟨text, rfl⟩) (not_exists.mp asks))
    | simStep target => exact absurd rfl (other target)
    | close => exact .closes
    | get domain variableId element =>
      exact turns_of_keeps (keeps_performGet service opcode domain variableId element)
    | set domain variableId element value =>
      exact turns_performSet service.movement opcode domain variableId element value

/-- A request of a session that can be used is one of the turns, and refused by others. -/
theorem stateBehind_step_of_takes {target : Option Double} {run : Run μ} {count : Nat}
    {course : Course μ} {ending : StepEnd} (usable : session.usable = .ok run)
    (takes : Course.Takes service.movement run.scenario target run.course count course ending) :
    stateBehind ((service.step target).run session) = session.behind run course ending := by
  obtain ⟨loaded, waits⟩ := Session.usable_eq_ok_iff.mp usable
  have made := Session.step_eq_ok_iff.mpr
    ⟨run, course, ending, loaded, waits, takes.advance_eq, rfl⟩
  rw [run_step, made, stateBehind]

theorem stateBehind_simStep (opcode : UInt8) (target : Double) :
    stateBehind ((service.perform opcode (.simStep target)).run session) =
      stateBehind ((service.step (targetOf target)).run session) := by
  rw [run_perform_simStep, run_step]
  cases session.step service.movement (targetOf target) with
  | error lapse => rfl
  | ok after =>
    simp only
    cases after.usable <;> rfl

/-- A demand for steps is met by making them, be it by a command or not. -/
theorem meet_of_asked {demand : Demand} {target : Option Double}
    (asked : service.asked? demand = some target) :
    service.meet session demand = stateBehind ((service.step target).run session) := by
  cases demand with
  | steps target' =>
    obtain rfl := Option.some.inj asked
    rfl
  | command frame packet =>
    unfold asked? at asked
    simp only at asked
    split at asked
    · next target' read =>
      obtain rfl := Option.some.inj asked
      rw [meet, stateBehind_answerFrame, sessionBehind_of_ok read, stateBehind_simStep]
    · cases asked

theorem turns_meet {demand : Demand} {updates : Nat}
    (updated : service.Updates session demand updates) :
    session.Turns service.movement updates (service.meet session demand) := by
  cases updated with
  | made asked usable takes =>
    rw [meet_of_asked asked, stateBehind_step_of_takes usable takes]
    exact .steps (Session.usable_eq_ok_iff.mp usable).1 takes
  | none still =>
    cases asked : service.asked? demand with
    | some target =>
      rw [meet_of_asked asked, run_step]
      cases usable : session.usable with
      | ok run => exact absurd usable (still target asked run)
      | error cause =>
        rw [Session.step_of_unusable usable]
        exact .keeps
    | none =>
      cases demand with
      | steps target => cases asked
      | command frame packet =>
        rw [meet, stateBehind_answerFrame]
        cases read : Command.ofFrame service.table frame with
        | error cause =>
          rw [sessionBehind_of_error read]
          exact .keeps
        | ok command =>
          rw [sessionBehind_of_ok read]
          refine turns_perform service frame.opcode (fun target same => ?_) session
          rw [asked?, read, same] at asked
          cases asked

/-- Every demand is met in the end, unless it asks for steps that have no end. -/
theorem exists_updates {demand : Demand}
    (ends : ∀ target, service.asked? demand = some target → ∀ run, session.usable = .ok run →
      run.course.advance service.movement run.scenario target ≠ none) :
    ∃ updates, service.Updates session demand updates := by
  cases asked : service.asked? demand with
  | none => exact ⟨0, .none fun target some => by cases asked.symm.trans some⟩
  | some target =>
    cases usable : session.usable with
    | error cause => exact ⟨0, .none fun _ _ run ok => by cases usable.symm.trans ok⟩
    | ok run =>
      obtain ⟨⟨course, ending⟩, advanced⟩ :=
        Option.ne_none_iff_exists'.mp (ends target asked run usable)
      obtain ⟨count, takes⟩ := Course.exists_takes_of_advance advanced
      exact ⟨count, .made asked usable takes⟩

/-- Ids are never given twice, so a run that is there behind some demands, and is older than the
session in front of them, was there all the time. -/
theorem continues_of_meetAll {demands : List Demand} {updates : Nat}
    (counted : service.UpdatesOver demands session updates) {last : Run μ}
    (loaded : (service.meetAll demands session).run? = some last)
    (old : last.id < session.nextId) :
    ∃ run, session.run? = some run ∧ run.Continues service.movement updates last := by
  induction counted with
  | nil => exact ⟨last, loaded, .refl last⟩
  | cons updated _ ih =>
    have turns := turns_meet updated
    obtain ⟨later, loaded', continues'⟩ := ih loaded (Nat.lt_of_lt_of_le old turns.nextId_le)
    obtain ⟨run, present, continues⟩ := turns.continues loaded' (continues'.id ▸ old)
    exact ⟨run, present, continues.trans continues'⟩

theorem UpdatesOver.append {first second : List Demand} {updates more : Nat}
    (counted : service.UpdatesOver first session updates)
    (counted' : service.UpdatesOver second (service.meetAll first session) more) :
    service.UpdatesOver (first ++ second) session (updates + more) := by
  induction counted with
  | nil =>
    rw [Nat.zero_add]
    exact counted'
  | cons updated _ ih =>
    rw [Nat.add_assoc]
    exact .cons updated (ih counted')

/-- A run that is there some demands after its load suits its scenario, and has been updated as
often as the demands made it. -/
theorem suits_of_loaded {before : Session μ} {scenario : Scenario} {demands : List Demand}
    {updates : Nat} {run : Run μ} (moves : service.movement.MovesOnly)
    (counted : service.UpdatesOver demands (before.load service.movement scenario) updates)
    (loaded : (service.meetAll demands (before.load service.movement scenario)).run? = some run)
    (same : run.id = before.nextId) :
    run.scenario = scenario ∧ run.course.Suits scenario updates := by
  obtain ⟨first, present, continues⟩ :=
    continues_of_meetAll counted loaded (same ▸ Nat.lt_succ_self before.nextId)
  obtain rfl := Option.some.inj present
  have suits := continues.suits moves 0 (.start service.movement scenario)
  rw [continues.scenario, Nat.zero_add] at suits
  exact ⟨continues.scenario, suits⟩

/-- From its load on until it is replaced or closed, whatever is asked meanwhile, a run keeps the
area and the keys of its scenario, and every pedestrian its id. Its counter tells the updates that
have succeeded, and never goes back as long as it does not run over; its clock shows as many step
lengths, multiplied once. An update leads each pedestrian on by itself. -/
theorem run_of_loaded (service : Service Unit) (constant : service.movement = .constantVelocity)
    (before : Session Unit) (scenario : Scenario) (demands : List Demand) {updates : Nat}
    (counted : service.UpdatesOver demands (before.load service.movement scenario) updates)
    {run : Run Unit}
    (loaded : (service.meetAll demands (before.load service.movement scenario)).run? = some run)
    (same : run.id = before.nextId) :
    (∀ id, id ∈ run.course.world.crowd.ids ↔ id ∈ scenario.pedestrians.map Pedestrian.id) ∧
    (∀ key pedestrian, run.course.world.crowd.find? key = some pedestrian →
      pedestrian.id = key) ∧
    run.course.world.area = scenario.area ∧
    run.course.world.step = .ofNat updates ∧
    (∀ more count later,
      service.UpdatesOver more (service.meetAll demands (before.load service.movement scenario))
        count →
      (service.meetAll (demands ++ more) (before.load service.movement scenario)).run? =
        some later →
      later.id = run.id →
      later.course.world.step = .ofNat (updates + count) ∧
        (updates + count < UInt64.size → run.course.world.step ≤ later.course.world.step)) ∧
    run.course.world.time = (if updates = 0 then .zero
      else .ofNat run.course.world.step.toNat * scenario.stepLength) ∧
    run.scenario = scenario ∧
    ∀ memory world seconds,
      (service.movement.update memory world seconds).LeadsEach world seconds := by
  have moves : service.movement.MovesOnly := constant ▸ Movement.movesOnly_constantVelocity
  obtain ⟨unchanged, suits⟩ := suits_of_loaded moves counted loaded same
  refine ⟨suits.ids, fun _ _ => Crowd.id_of_find? suits.consistent, suits.area, suits.step, ?_, ?_,
    unchanged, ?_⟩
  · intro more count later counted' loaded' same'
    obtain ⟨-, suits'⟩ :=
      suits_of_loaded moves (counted.append counted') loaded' (same'.trans same)
    refine ⟨suits'.step, fun fits => ?_⟩
    rw [suits.step, suits'.step, UInt64.le_iff_toNat_le, UInt64.toNat_ofNat_of_lt' fits,
      UInt64.toNat_ofNat_of_lt' (Nat.lt_of_le_of_lt (Nat.le_add_right updates count) fits)]
    exact Nat.le_add_right _ _
  · rw [suits.step]
    exact suits.time
  · rw [constant]
    exact Movement.leadsEach_walkCrowd

private def stroller : Service Unit where
  config := { versionText := "v" }
  table := .standard
  movement := .constantVelocity

private def corridor : Scenario where
  name := "corridor"
  stepLength := .ofNat 1
  area := ⟨.ofNat 4, .ofNat 1⟩
  pedestrians := [⟨7, .origin, ⟨.ofNat 1, .zero⟩⟩, ⟨3, .origin, .origin⟩]

/-- A pedestrian in the corridor that starts at once, and one that has a position and a velocity,
behind a number of steps. -/
private def strolling (steps : UInt64) (position velocity : Point) : Course Unit where
  memory := ()
  world := {
    step := steps
    time := .ofNat steps.toNat * .ofNat 1
    area := corridor.area
    crowd := {
      entries := [(3, ⟨3, position, velocity⟩),
        (7, ⟨7, ⟨.ofNat steps.toNat, .zero⟩, ⟨.ofNat 1, .zero⟩⟩)]
      ascending := by simp } }

/-- Two steps to a target, a step that is cut off, a speed for a pedestrian, and one step more. -/
theorem run_of_loaded_corridor :
    let demands : List Demand := [
      .steps (some (.ofNat 2)),
      .command ⟨0x02, [0]⟩ {},
      .command ⟨0xce, 0x40 :: writeInt32 1 ++ [51] ++ 0x0B :: writeDouble (.ofNat 2)⟩ {},
      .command ⟨0x02, writeDouble .zero⟩ {}]
    let session := Session.load stroller.movement corridor {}
    stroller.UpdatesOver demands session 3 ∧
      ∃ run, (stroller.meetAll demands session).run? = some run ∧ run.id = 1 ∧
        (∀ id, id ∈ run.course.world.crowd.ids ↔ id ∈ [7, 3]) ∧
        run.course.world.step = 3 ∧ run.course.world.time = .ofNat 3 * .ofNat 1 ∧
        run.course.world.crowd.find? 3 =
          some ⟨3, ⟨.ofNat 2, .zero⟩, ⟨.ofNat 2, .zero⟩⟩ := by
  intro demands session
  have takes : Course.Takes stroller.movement corridor (some (.ofNat 2))
      (.start stroller.movement corridor) 2 (strolling 2 .origin .origin)
      (.paused (.ofNat 2 * .ofNat 1)) :=
    Course.takes_of_advanceWithin 2 (by decide +kernel)
  have takes' : Course.Takes stroller.movement corridor (targetOf .zero)
      (strolling 2 .origin ⟨.ofNat 2, .zero⟩) 1
      (strolling 3 ⟨.ofNat 2, .zero⟩ ⟨.ofNat 2, .zero⟩) (.paused (.ofNat 3 * .ofNat 1)) :=
    Course.takes_of_advanceWithin 1 (by decide +kernel)
  let second : Session Unit := ⟨some ⟨1, corridor, strolling 2 .origin .origin, none, true⟩, 2⟩
  let third : Session Unit :=
    ⟨some ⟨1, corridor, strolling 2 .origin ⟨.ofNat 2, .zero⟩, none, true⟩, 2⟩
  have first : session.usable = .ok (.start stroller.movement 1 corridor) := rfl
  have last : third.usable =
      .ok ⟨1, corridor, strolling 2 .origin ⟨.ofNat 2, .zero⟩, none, true⟩ := rfl
  have reached : stroller.meet session (.steps (some (.ofNat 2))) = second :=
    stateBehind_step_of_takes first takes
  have cut : stroller.meet second (.command ⟨0x02, [0]⟩ {}) = second := by decide +kernel
  have sped : stroller.meet second (.command
      ⟨0xce, 0x40 :: writeInt32 1 ++ [51] ++ 0x0B :: writeDouble (.ofNat 2)⟩ {}) = third := by
    decide +kernel
  have asked : stroller.asked? (.command ⟨0x02, writeDouble .zero⟩ {}) = some (targetOf .zero) := by
    decide +kernel
  let run : Run Unit :=
    ⟨1, corridor, strolling 3 ⟨.ofNat 2, .zero⟩ ⟨.ofNat 2, .zero⟩, none, true⟩
  have stepped : stroller.meet third (.command ⟨0x02, writeDouble .zero⟩ {}) = ⟨some run, 2⟩ := by
    rw [meet_of_asked asked]
    exact stateBehind_step_of_takes last takes'
  have still : ∀ frame, stroller.asked? (.command frame {}) = none →
      stroller.Updates second (.command frame {}) 0 :=
    fun frame none => .none fun target some => by cases none.symm.trans some
  have counted : stroller.UpdatesOver demands session 3 := by
    show stroller.UpdatesOver demands session (2 + (0 + (0 + (1 + 0))))
    refine .cons (.made rfl first takes) ?_
    rw [reached]
    refine .cons (still _ (by decide +kernel)) ?_
    rw [cut]
    refine .cons (still _ (by decide +kernel)) ?_
    rw [sped]
    exact .cons (.made asked last takes') (.nil _)
  have loaded : (stroller.meetAll demands session).run? = some run := by
    simp only [demands, meetAll, List.foldl_cons, List.foldl_nil, reached, cut, sped, stepped]
  obtain ⟨ids, -, -, steps, -, time, -⟩ :=
    run_of_loaded stroller rfl {} corridor demands counted loaded rfl
  exact ⟨counted, run, loaded, rfl, ids, steps, time, by decide +kernel⟩

end Service

end RemoteCrowd
