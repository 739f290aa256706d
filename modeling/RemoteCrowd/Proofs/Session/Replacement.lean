import RemoteCrowd.Proofs.Session.Serial

/-!
An old run has no effect. A run that is replaced or closed in the middle of a step goes on
with the step, and its worker reports the end whenever it comes to that. But whatever the
worker still does, and whenever it does it, callers get the same answers as if it had done
nothing since, and once no load or close is half done the session is the same up to the old
worker itself.
-/

namespace RemoteCrowd

/-- The holder of the lock is parting from a run, and then loads a scenario or is done. -/
def Stage.Parts (run : Nat) (scenario? : Option Scenario) (stage : Stage) : Prop :=
  stage = .stopping run scenario? ∨ stage = .parting run scenario? ∨
    stage = .joining run scenario?

theorem Stage.Parts.awake {stage : Stage} {run : Nat} {scenario? : Option Scenario}
    (parts : stage.Parts run scenario?) {own : Nat} {change : World → World} :
    stage ≠ .asleep own change := by
  rcases parts with rfl | rfl | rfl <;> exact nofun

/-- The run that the holder of the lock is parting from. -/
def Stage.parted? : Stage → Option Nat
  | .stopping run _ | .parting run _ | .joining run _ => some run
  | _ => none

/-- The run that a stage speaks of. -/
def Stage.run? : Stage → Option Nat
  | .stopping run _ | .parting run _ | .joining run _ | .starting run _ | .requesting run _
  | .aborting run _ | .checking run _ | .asleep run _ | .handling run _ => some run
  | .entered _ | .announcing _ | .leaving _ => none

namespace Slot

variable {slot after : Slot} {run : Nat}

theorem runId_of_beginStep (begun : slot.beginStep run = .ok after) : after.runId = slot.runId := by
  unfold beginStep at begun
  cases usable : slot.checkUsable run with
  | error cause =>
    rw [usable] at begun
    cases begun
  | ok _ =>
    rw [usable] at begun
    change (if slot.lifecycle = .stepping then _ else _) = _ at begun
    split at begun
    · cases begun
    · obtain rfl := Except.ok.inj begun
      rfl

@[simp] theorem runId_abortStep (slot : Slot) (run : Nat) :
    (slot.abortStep run).runId = slot.runId := by
  unfold abortStep
  split <;> rfl

end Slot

/-- A worker in the middle of a step keeps nobody waiting for its exit. -/
theorem Worker.Follows.busy {μ : Type} {movement : Movement μ} {worker : Worker μ}
    {log : List Entry} {signals : List Bool} (follows : worker.Follows movement log signals)
    (owes : worker.outstanding = 1) (unended : worker.phase ≠ .reporting .stepFinished) :
    (worker.waiting || worker.phase = .exited) = false := by
  have noStep {queue : List Request} (rest : ∀ request ∈ queue, request = .stop) :
      queue.countP Request.isStep = 0 := by
    apply List.countP_eq_zero.mpr
    intro request member
    rw [rest request member]
    exact nofun
  unfold outstanding at owes
  cases follows with
  | waits calm rest reaches =>
    rw [noStep rest] at owes
    cases phase : worker.phase with
    | idle => simp [phase, Phase.isInStep] at owes
    | reporting report =>
      cases report with
      | stepFinished => exact absurd phase unended
      | runFinished outcome => simp [phase, Phase.isCalm] at calm
    | stepping target | leaving | exited => simp [phase, Phase.isCalm] at calm
  | asked idle asked rest busy reaches => simp [busy, idle]
  | makes stepping rest busy reaches underway => simp [busy, stepping]
  | ended gone rest busy reaches =>
    rw [noStep rest, Nat.zero_add] at owes
    cases inStep : worker.phase.isInStep with
    | false => simp [inStep] at owes
    | true =>
      rw [busy inStep]
      cases phase : worker.phase with
      | exited => simp [phase, Phase.isInStep] at inStep
      | _ => rfl

namespace SharedSession

variable {μ : Type}

/-- Whether an action belongs to an old run: its worker goes on, its movement gets a signal, or
the holder of the lock is parting from it. -/
def concerns (session : SharedSession μ) (old : Nat) : Action → Bool
  | .enter _ | .fail _ | .breakOff => false
  | .proceed => session.holder.any fun stage => stage.parted? = some old
  | .work run | .signal run _ => run = old

/-- What is left of the actions without those that belong to an old run. -/
def without (movement : Movement μ) (old : Nat) : List Action → SharedSession μ → List Action
  | [], _ => []
  | action :: rest, session =>
    match session.act? movement action with
    | none => []
    | some (after, _) =>
      let later := without movement old rest after
      if session.concerns old action then later else action :: later

/-- The session in which an old worker has been told to stop, and been let go at once. -/
def letGo (session : SharedSession μ) (old : Nat) (scenario? : Option Scenario)
    (worker : Worker μ) : SharedSession μ :=
  (session.setWorker old (worker.send .stop)).goTo (afterParting scenario?)

/-- The workers are the same, up to the one of the old run. In the second session that one
stands still. -/
structure Alike (old : Nat) (still : Worker μ) (session other : SharedSession μ) : Prop where
  still : other.worker? old = some still
  same : ∃ worker : Worker μ, session.workers = other.workers.set (old - 1) (some worker)

namespace Alike

variable {old run : Nat} {still worker : Worker μ} {session other : SharedSession μ}

theorem worker?_eq (alike : Alike old still session other) (apart : run ≠ old) :
    session.worker? run = other.worker? run := by
  obtain ⟨worker, same⟩ := alike.same
  have positive := pos_of_worker? alike.still
  unfold worker?
  split
  · rfl
  · have different : old - 1 ≠ run - 1 := by omega
    rw [same, List.getElem?_set_ne different]

theorem nextId_eq (alike : Alike old still session other) : session.nextId = other.nextId := by
  obtain ⟨worker, same⟩ := alike.same
  rw [nextId, nextId, same, List.length_set]

/-- The old worker goes on in one session only. -/
theorem setOld (alike : Alike old still session other) (worker : Worker μ) :
    Alike old still (session.setWorker old worker) other := by
  obtain ⟨before, same⟩ := alike.same
  refine ⟨alike.still, worker, ?_⟩
  rw [setWorker, same, List.set_set]

/-- Another worker goes on in both. -/
theorem setWorker (alike : Alike old still session other) (apart : run ≠ old)
    (positive : run ≠ 0) (worker : Worker μ) :
    Alike old still (session.setWorker run worker) (other.setWorker run worker) := by
  obtain ⟨before, same⟩ := alike.same
  have positive' := pos_of_worker? alike.still
  have different : old - 1 ≠ run - 1 := by omega
  constructor
  · rw [worker?_setWorker_of_ne positive (Ne.symm apart)]
    exact alike.still
  · refine ⟨before, ?_⟩
    rw [SharedSession.setWorker, SharedSession.setWorker, same, List.set_comm _ _ different]

/-- Another run is to be loaded in both. -/
theorem addWorker (alike : Alike old still session other) (worker? : Option (Worker μ)) :
    Alike old still (session.addWorker worker?) (other.addWorker worker?) := by
  obtain ⟨before, same⟩ := alike.same
  have started := Nat.ne_of_lt (lt_nextId_of_worker? alike.still)
  obtain ⟨-, found⟩ := worker?_eq_some_iff.mp alike.still
  have short := (List.getElem?_eq_some_iff.mp found).1
  constructor
  · rw [worker?_addWorker_of_ne started]
    exact alike.still
  · refine ⟨before, ?_⟩
    rw [SharedSession.addWorker, same]
    exact (List.set_append_left _ _ short).symm

end Alike

/-- How the two slots stand to each other: they are the same and do not speak of the old run,
or both speak of it and a new run is to be announced. -/
inductive Slots (old : Nat) (slot slot' : Slot) (holder : Option Stage) : Prop where
  | same (equal : slot = slot') (apart : slot'.runId ≠ old)
  | stale {scenario : Scenario} (announcing : holder = some (.announcing scenario))
    (own : slot.runId = old) (own' : slot'.runId = old)

/-- How the two holders of the lock stand to each other: one is parting from the old run and
the other has done so, or both are at the same stage of something else. -/
inductive Stages (old : Nat) (holder holder' : Option Stage) : Prop where
  | parting {stage : Stage} {scenario? : Option Scenario} (parts : stage.Parts old scenario?)
    (holding : holder = some stage) (parted : holder' = some (afterParting scenario?))
  | level (equal : holder = holder') (apart : ∀ stage, holder' = some stage → stage.run? ≠ some old)

/-- Two sessions of which one has an old worker that still goes on. -/
structure Twin (old : Nat) (still : Worker μ) (session other : SharedSession μ) : Prop where
  alike : Alike old still session other
  current_eq : session.current = other.current
  current_ne : other.current ≠ some old
  slots : Slots old session.slot other.slot other.holder
  stages : Stages old session.holder other.holder

variable {movement : Movement μ} {old : Nat} {still : Worker μ}
  {session other after : SharedSession μ} {answer? : Option Answer} {broken : Prop}

/-- Two sessions that have come to the same stage of something else. -/
theorem Alike.goTo (alike : Alike old still session other)
    (current_eq : session.current = other.current) (current_ne : other.current ≠ some old)
    (slot_eq : session.slot = other.slot) (apart : other.slot.runId ≠ old) {stage : Stage}
    (elsewhere : stage.run? ≠ some old) : Twin old still (session.goTo stage) (other.goTo stage) := by
  refine ⟨⟨alike.still, alike.same⟩, current_eq, current_ne, .same slot_eq apart, .level rfl ?_⟩
  intro stage' same
  obtain rfl := Option.some.inj same
  exact elsewhere

/-- Whoever is woken is at the same run. -/
theorem run?_wokenBy (session : SharedSession μ) (run : Nat) (report? : Option Report)
    (stage : Stage) : (session.wokenBy run report? stage).run? = stage.run? := by
  obtain same | ⟨own, change, rfl, -, -, wakes⟩ := session.wokenBy_cases run report? stage
  · rw [same]
  · rw [wakes]
    rfl

theorem run?_afterParting (scenario? : Option Scenario) :
    (afterParting scenario?).run? = none := by
  cases scenario? <;> rfl

namespace Twin

/-- Nobody sleeps while the slot still speaks of the old run. -/
theorem apart_of_asleep (twin : Twin old still session other) {own : Nat}
    {change : World → World} (asleep : session.holder = some (.asleep own change)) :
    session.slot.runId ≠ old := by
  cases twin.stages with
  | parting parts holding parted =>
    exact absurd (Option.some.inj (holding.symm.trans asleep)) parts.awake
  | level equal =>
    cases twin.slots with
    | same same apart => exact same ▸ apart
    | stale announcing => cases asleep.symm.trans (equal.trans announcing)

/-- The old worker goes on, and the slot hears nothing new of it. -/
theorem works_old (twin : Twin old still session other) (worker : Worker μ)
    (report? : Option Report) : Twin old still (session.worked old worker report?) other := by
  have holder_eq := holder_worked_of_apart (fun _ _ => twin.apart_of_asleep) worker report?
  obtain ⟨alike, current_eq, current_ne, slots, stages⟩ := twin
  have alike' := alike.setOld worker
  refine ⟨⟨alike'.still, ?_⟩, (current_worked ..).trans current_eq, current_ne, ?_, ?_⟩
  · rw [workers_worked]
    exact alike'.same
  · rw [slot_worked]
    cases slots with
    | same equal apart =>
      have unheard : session.slot.heard old report? = session.slot :=
        Slot.heard_of_ne (equal ▸ apart) report?
      exact .same (unheard.trans equal) apart
    | stale announcing own own' =>
      exact .stale announcing ((Slot.runId_heard ..).trans own) own'
  · rw [holder_eq]
    exact stages

theorem signals_old (twin : Twin old still session other) (worker : Worker μ) :
    Twin old still (session.setWorker old worker) other := by
  obtain ⟨alike, current_eq, current_ne, slots, stages⟩ := twin
  exact ⟨alike.setOld worker, current_eq, current_ne, slots, stages⟩

/-- The holder of the lock goes on parting from the old run. -/
theorem parts {stage : Stage} {scenario? : Option Scenario}
    (twin : Twin old still session other) (parts : stage.Parts old scenario?)
    (parted : other.holder = some (afterParting scenario?))
    (proceeds : Proceeds movement session stage after answer?) :
    answer? = none ∧ Twin old still after other := by
  obtain ⟨alike, current_eq, current_ne, slots, -⟩ := twin
  have level : Stages old (some (afterParting scenario?)) other.holder := by
    refine .level parted.symm ?_
    intro stage same
    obtain rfl := Option.some.inj (parted.symm.trans same)
    rw [run?_afterParting]
    exact nofun
  rcases parts with rfl | rfl | rfl
  · cases proceeds with
    | @tells _ _ worker found =>
      have alike' := alike.setOld (worker.send .stop)
      exact ⟨rfl, ⟨alike'.still, alike'.same⟩, current_eq, current_ne, slots,
        .parting (.inr (.inl rfl)) rfl parted⟩
  · cases proceeds with
    | awaits found idle =>
      exact ⟨rfl, ⟨alike.still, alike.same⟩, current_eq, current_ne, slots,
        .parting (.inr (.inr rfl)) rfl parted⟩
    | detaches found busy =>
      exact ⟨rfl, ⟨alike.still, alike.same⟩, current_eq, current_ne, slots, level⟩
  · cases proceeds with
    | joins found exited =>
      exact ⟨rfl, ⟨alike.still, alike.same⟩, current_eq, current_ne, slots, level⟩

/-- Where the slots are the same, the holder of the lock does the same in both sessions. -/
theorem proceeds_of_slot_eq {stage : Stage} (alike : Alike old still session other)
    (current_eq : session.current = other.current) (current_ne : other.current ≠ some old)
    (same : session.slot = other.slot) (unheard : other.slot.runId ≠ old)
    (apart : stage.run? ≠ some old)
    (unannounced : ∀ scenario, stage ≠ .announcing scenario)
    (proceeds : Proceeds movement session stage after answer?) :
    ∃ after', Proceeds movement other stage after' answer? ∧ Twin old still after after' := by
  have present_ne {run : Nat} (present : session.current = some run) : some run ≠ some old :=
    present ▸ current_eq ▸ current_ne
  have located {run : Nat} {worker : Worker μ} (own : stage.run? = some run)
      (found : session.worker? run = some worker) :
      run ≠ old ∧ other.worker? run = some worker := by
    have other_run : run ≠ old := fun same => apart (own.trans (congrArg some same))
    exact ⟨other_run, (alike.worker?_eq other_run).symm.trans found⟩
  cases proceeds with
  | loadsFirst empty =>
    exact ⟨_, .loadsFirst (current_eq ▸ empty), alike.goTo current_eq current_ne same unheard nofun⟩
  | loadsNext present =>
    have alike' : Alike old still { session with current := none } { other with current := none } :=
      ⟨alike.still, alike.same⟩
    exact ⟨_, .loadsNext (current_eq ▸ present),
      alike'.goTo rfl nofun same unheard (present_ne present)⟩
  | stepsNowhere empty =>
    exact ⟨_, .stepsNowhere (current_eq ▸ empty), alike.goTo current_eq current_ne same unheard nofun⟩
  | stepRefused present refused =>
    exact ⟨_, .stepRefused (current_eq ▸ present) (same ▸ refused),
      alike.goTo current_eq current_ne same unheard nofun⟩
  | @stepBegins target run slot present begun =>
    have alike' : Alike old still { session with slot } { other with slot } :=
      ⟨alike.still, alike.same⟩
    have unheard' : slot.runId ≠ old := by
      rw [Slot.runId_of_beginStep begun, same]
      exact unheard
    exact ⟨_, .stepBegins (current_eq ▸ present) (same ▸ begun),
      alike'.goTo current_eq current_ne rfl unheard' (present_ne present)⟩
  | looksNowhere empty =>
    exact ⟨_, .looksNowhere (current_eq ▸ empty), alike.goTo current_eq current_ne same unheard nofun⟩
  | looks present =>
    exact ⟨_, .looks (current_eq ▸ present),
      alike.goTo current_eq current_ne same unheard (present_ne present)⟩
  | fallsAsleep busy =>
    exact ⟨_, .fallsAsleep (same ▸ busy), alike.goTo current_eq current_ne same unheard apart⟩
  | lookRefused ended =>
    exact ⟨_, .lookRefused (same ▸ ended), alike.goTo current_eq current_ne same unheard nofun⟩
  | lookBegins ended =>
    exact ⟨_, .lookBegins (same ▸ ended), alike.goTo current_eq current_ne same unheard apart⟩
  | closesNothing empty =>
    exact ⟨_, .closesNothing (current_eq ▸ empty), alike.goTo current_eq current_ne same unheard nofun⟩
  | closes present =>
    have alike' : Alike old still { session with current := none, slot := {} }
        { other with current := none, slot := {} } := ⟨alike.still, alike.same⟩
    exact ⟨_, .closes (current_eq ▸ present),
      alike'.goTo rfl nofun rfl (pos_of_worker? alike.still).symm (present_ne present)⟩
  | @tells run scenario? worker found =>
    obtain ⟨elsewhere, found'⟩ := located rfl found
    have alike' := alike.setWorker elsewhere (pos_of_worker? found) (worker.send .stop)
    exact ⟨_, .tells found', alike'.goTo current_eq current_ne same unheard apart⟩
  | @awaits run scenario? worker found idle =>
    obtain ⟨elsewhere, found'⟩ := located rfl found
    exact ⟨_, .awaits found' idle, alike.goTo current_eq current_ne same unheard apart⟩
  | @detaches run scenario? worker found busy =>
    obtain ⟨elsewhere, found'⟩ := located rfl found
    exact ⟨_, .detaches found' busy, alike.goTo current_eq current_ne same unheard
      (run?_afterParting scenario? ▸ nofun)⟩
  | @joins run scenario? worker found exited =>
    obtain ⟨elsewhere, found'⟩ := located rfl found
    exact ⟨_, .joins found' exited, alike.goTo current_eq current_ne same unheard
      (run?_afterParting scenario? ▸ nofun)⟩
  | announces => exact absurd rfl (unannounced _)
  | @starts run scenario =>
    have alike' := alike.addWorker (some (.start movement scenario))
    have loaded : Alike old still
        { session.addWorker (some (.start movement scenario)) with current := some run }
        { other.addWorker (some (.start movement scenario)) with current := some run } :=
      ⟨alike'.still, alike'.same⟩
    exact ⟨_, .starts, loaded.goTo rfl apart same unheard nofun⟩
  | @requests run target worker found =>
    obtain ⟨elsewhere, found'⟩ := located rfl found
    refine ⟨_, .requests found', ?_⟩
    unfold requestStep
    split
    · exact alike.goTo current_eq current_ne same unheard apart
    · split
      · have alike' := alike.setWorker elsewhere (pos_of_worker? found) { worker with waiting := true }
        exact alike'.goTo current_eq current_ne same unheard apart
      · have alike' := alike.setWorker elsewhere (pos_of_worker? found)
          { worker.send (.step target) with waiting := false }
        exact alike'.goTo current_eq current_ne same unheard nofun
  | @aborts run cause =>
    have alike' : Alike old still { session with slot := other.slot.abortStep run }
        { other with slot := other.slot.abortStep run } := ⟨alike.still, alike.same⟩
    have unheard' : (other.slot.abortStep run).runId ≠ old := by
      rw [Slot.runId_abortStep]
      exact unheard
    rw [same]
    exact ⟨_, .aborts, alike'.goTo current_eq current_ne rfl unheard' nofun⟩
  | @handles run change worker found =>
    obtain ⟨elsewhere, found'⟩ := located rfl found
    have alike' := alike.setWorker elsewhere (pos_of_worker? found)
      { worker with course := worker.course.change change }
    exact ⟨_, .handles found', alike'.goTo current_eq current_ne same unheard nofun⟩
  | leaves =>
    exact ⟨_, .leaves, ⟨alike.still, alike.same⟩, current_eq, current_ne, .same same unheard,
      .level rfl nofun⟩

/-- The holder of the lock does something else, and does the same in both sessions. Only in front of
an announcement can the slots differ. -/
theorem proceeds {stage : Stage} (twin : Twin old still session other)
    (level : other.holder = some stage) (apart : stage.run? ≠ some old)
    (proceeds : Proceeds movement session stage after answer?) :
    ∃ after', Proceeds movement other stage after' answer? ∧ Twin old still after after' := by
  obtain ⟨alike, current_eq, current_ne, slots, -⟩ := twin
  by_cases announcing : ∃ scenario, stage = .announcing scenario
  · obtain ⟨scenario, rfl⟩ := announcing
    cases proceeds with
    | announces =>
      have next : other.nextId ≠ old := Ne.symm (Nat.ne_of_lt (lt_nextId_of_worker? alike.still))
      have alike' : Alike old still { session with slot := ⟨other.nextId, .loadedIdle⟩ }
          { other with slot := ⟨other.nextId, .loadedIdle⟩ } := ⟨alike.still, alike.same⟩
      rw [alike.nextId_eq]
      exact ⟨_, .announces,
        alike'.goTo current_eq current_ne rfl next fun same => next (Option.some.inj same)⟩
  · have unannounced : ∀ scenario, stage ≠ .announcing scenario := not_exists.mp announcing
    cases slots with
    | same equal unheard =>
      exact proceeds_of_slot_eq alike current_eq current_ne equal unheard apart unannounced proceeds
    | stale announced own own' =>
      exact absurd (Option.some.inj (level.symm.trans announced)) (unannounced _)

/-- Whoever is woken in one session is woken in the other one too. -/
theorem stages_worked (twin : Twin old still session other) (run : Nat) (worker : Worker μ)
    (report? : Option Report) :
    Stages old (session.worked run worker report?).holder
      (other.worked run worker report?).holder := by
  obtain ⟨-, -, -, slots, stages⟩ := twin
  cases stages with
  | @parting stage scenario? parts holding parted =>
    rw [holder_worked_of_apart, holder_worked_of_apart]
    · exact .parting parts holding parted
    · intro own change asleep
      cases scenario? <;> cases parted.symm.trans asleep
    · intro own change asleep
      exact absurd (Option.some.inj (holding.symm.trans asleep)) parts.awake
  | level equal apart =>
    have woken : session.holder.map (session.wokenBy run report?) =
        other.holder.map (other.wokenBy run report?) := by
      rw [equal]
      cases slots with
      | same same => unfold SharedSession.wokenBy; rw [same]
      | @stale scenario announcing =>
        have awake : ∀ own change, Stage.announcing scenario ≠ .asleep own change := nofun
        rw [announcing, Option.map_some, Option.map_some, wokenBy_of_awake awake,
          wokenBy_of_awake awake]
    rw [holder_worked, holder_worked, woken]
    refine .level rfl fun stage holding => ?_
    obtain ⟨before, holding', rfl⟩ := Option.map_eq_some_iff.mp holding
    rw [run?_wokenBy]
    exact apart before holding'

/-- Another worker goes on, and does the same in both sessions. -/
theorem works {run : Nat} {worker worker' : Worker μ} {report? : Option Report}
    (twin : Twin old still session other) (elsewhere : run ≠ old)
    (found : session.worker? run = some worker) (goes : worker.Goes movement worker' report?) :
    Acts movement other (.work run) (other.worked run worker' report?) none ∧
      Twin old still (session.worked run worker' report?) (other.worked run worker' report?) := by
  have stages' := twin.stages_worked run worker' report?
  obtain ⟨alike, current_eq, current_ne, slots, stages⟩ := twin
  have found' := (alike.worker?_eq elsewhere).symm.trans found
  have alike' := alike.setWorker elsewhere (pos_of_worker? found) worker'
  refine ⟨.works found' goes, ⟨?_, ?_⟩, ?_, ?_, ?_, stages'⟩
  · rw [worker?_worked]
    exact alike'.still
  · rw [workers_worked, workers_worked]
    exact alike'.same
  · rw [current_worked, current_worked]
    exact current_eq
  · rw [current_worked]
    exact current_ne
  · rw [slot_worked, slot_worked]
    cases slots with
    | same equal apart =>
      rw [equal]
      refine .same rfl ?_
      rw [Slot.runId_heard]
      exact apart
    | @stale scenario announcing own own' =>
      have still : (other.worked run worker' report?).holder = some (.announcing scenario) := by
        rw [holder_worked_of_apart, announcing]
        intro _ _ asleep
        cases announcing.symm.trans asleep
      exact .stale still ((Slot.runId_heard ..).trans own) ((Slot.runId_heard ..).trans own')

theorem signals {run : Nat} {worker : Worker μ} (twin : Twin old still session other)
    (elsewhere : run ≠ old) (found : session.worker? run = some worker) (isOpen : Bool) :
    Acts movement other (.signal run isOpen)
        (other.setWorker run (worker.signal movement isOpen)) none ∧
      Twin old still (session.setWorker run (worker.signal movement isOpen))
        (other.setWorker run (worker.signal movement isOpen)) := by
  obtain ⟨alike, current_eq, current_ne, slots, stages⟩ := twin
  have found' := (alike.worker?_eq elsewhere).symm.trans found
  have alike' := alike.setWorker elsewhere (pos_of_worker? found) (worker.signal movement isOpen)
  exact ⟨.signals found', alike', current_eq, current_ne, slots, stages⟩

/-- A run that is to be loaded does not start, in neither session. -/
theorem loses {run : Nat} {scenario : Scenario} {answer : Answer} (slot slot' : Slot)
    (twin : Twin old still session other)
    (starting : session.holder = some (.starting run scenario))
    (keeps : session.slot = other.slot → other.slot.runId ≠ old →
      slot = slot' ∧ slot'.runId ≠ old) :
    other.holder = some (.starting run scenario) ∧
      Twin old still (({ session.addWorker none with slot }).goTo (.leaving answer))
        (({ other.addWorker none with slot := slot' }).goTo (.leaving answer)) := by
  obtain ⟨alike, current_eq, current_ne, slots, stages⟩ := twin
  have alike' := alike.addWorker none
  have lost : Alike old still { session.addWorker none with slot }
      { other.addWorker none with slot := slot' } := ⟨alike'.still, alike'.same⟩
  cases stages with
  | parting parts holding parted =>
    obtain rfl := Option.some.inj (holding.symm.trans starting)
    rcases parts with parts | parts | parts <;> cases parts
  | level equal =>
    have starting' := equal.symm.trans starting
    cases slots with
    | same same unheard =>
      obtain ⟨same', unheard'⟩ := keeps same unheard
      exact ⟨starting', lost.goTo current_eq current_ne same' unheard' nofun⟩
    | stale announcing => cases announcing.symm.trans starting'

/-- An action of the old run gives no answer and keeps the other session as it is. Every other
action does the same in both. -/
theorem acts {action : Action} (twin : Twin old still session other)
    (acts : Acts movement session action after answer?) :
    (session.concerns old action = true ∧ answer? = none ∧ Twin old still after other) ∨
      (session.concerns old action = false ∧
        ∃ after', Acts movement other action after' answer? ∧ Twin old still after after') := by
  cases acts with
  | enters free =>
    obtain ⟨alike, current_eq, current_ne, slots, stages⟩ := twin
    cases stages with
    | parting parts holding parted => cases free.symm.trans holding
    | level equal apart =>
      have free' := equal.symm.trans free
      refine .inr ⟨rfl, _, .enters free', ?_⟩
      cases slots with
      | same same unheard => exact alike.goTo current_eq current_ne same unheard nofun
      | stale announcing own own' => cases free'.symm.trans announcing
  | @proceeds stage after answer? holding proceeds =>
    cases twin.stages with
    | @parting stage' scenario? parts holding' parted =>
      obtain rfl := Option.some.inj (holding.symm.trans holding')
      obtain ⟨unanswered, twin'⟩ := twin.parts parts parted proceeds
      refine .inl ⟨?_, unanswered, twin'⟩
      rcases parts with rfl | rfl | rfl <;> simp [concerns, holding, Stage.parted?]
    | level equal apart =>
      have holding' := equal.symm.trans holding
      obtain ⟨after', proceeds', twin'⟩ := twin.proceeds holding' (apart stage holding') proceeds
      refine .inr ⟨?_, after', .proceeds holding' proceeds', twin'⟩
      have elsewhere := apart stage holding'
      cases stage <;> simp_all [concerns, Stage.parted?, Stage.run?]
  | fails starting =>
    have positive := (pos_of_worker? twin.alike.still).symm
    obtain ⟨starting', twin'⟩ := twin.loses {} {} starting
      fun _ _ => ⟨rfl, positive⟩
    exact .inr ⟨rfl, _, .fails starting', twin'⟩
  | breaksOff starting =>
    obtain ⟨starting', twin'⟩ := twin.loses session.slot other.slot starting
      fun same unheard => ⟨same, unheard⟩
    exact .inr ⟨rfl, _, .breaksOff starting', twin'⟩
  | @works run worker worker' report? found goes =>
    by_cases same : run = old
    · subst same
      exact .inl ⟨by simp [concerns], rfl, twin.works_old worker' report?⟩
    · have kept := twin.works same found goes
      exact .inr ⟨by simp [concerns, same], _, kept⟩
  | @signals run isOpen worker found =>
    by_cases same : run = old
    · subst same
      exact .inl ⟨by simp [concerns], rfl, twin.signals_old _⟩
    · exact .inr ⟨by simp [concerns, same], _, twin.signals same found isOpen⟩

/-- The actions that do not belong to the old run give the same answers without the others. -/
theorem runs {actions : List Action} {last : SharedSession μ} {answers : List Answer}
    (twin : Twin old still session other)
    (ran : run? movement actions session = some (last, answers)) :
    ∃ last', run? movement (without movement old actions session) other = some (last', answers) ∧
      Twin old still last last' := by
  induction actions generalizing session other answers with
  | nil =>
    obtain ⟨rfl, rfl⟩ := Prod.mk.inj (Option.some.inj ran)
    exact ⟨other, rfl, twin⟩
  | cons action rest ih =>
    obtain ⟨after, answer?, later, acted, ranRest, rfl⟩ := run?_cons_eq_some_iff.mp ran
    rcases twin.acts (acts_of_act? acted) with ⟨old, rfl, twin'⟩ | ⟨elsewhere, after', acts, twin'⟩
    · obtain ⟨last', ran', twinLast⟩ := ih twin' ranRest
      refine ⟨last', ?_, twinLast⟩
      simp only [without, acted, old, if_true]
      exact ran'
    · obtain ⟨last', ran', twinLast⟩ := ih twin' ranRest
      refine ⟨last', ?_, twinLast⟩
      simp only [without, acted, elsewhere]
      exact run?_cons_of_acts acts ran'

/-- Once no load, step or close is half done, only the old worker makes a difference. -/
theorem eq_setWorker (twin : Twin old still session other) (whole : session.isHalfDone = false) :
    ∃ worker, session = other.setWorker old worker := by
  obtain ⟨⟨still, worker, same⟩, current_eq, -, slots, stages⟩ := twin
  cases stages with
  | parting parts holding parted =>
    rcases parts with rfl | rfl | rfl <;> simp [isHalfDone, holding] at whole
  | level holder_eq apart =>
    cases slots with
    | same slot_eq unheard =>
      refine ⟨worker, ?_⟩
      obtain ⟨slot, current, workers, holder⟩ := session
      simp only at slot_eq current_eq same holder_eq
      subst slot_eq current_eq same holder_eq
      rfl
    | stale announcing own own' => simp [isHalfDone, holder_eq, announcing] at whole

end Twin

/-- A session and the one in which the old worker is let go at once. -/
theorem twin_letGo {scenario? : Option Scenario} {worker : Worker μ}
    (holding : session.holder = some (.stopping old scenario?))
    (agrees : session.AgreesAt broken (.stopping old scenario?))
    (found : session.worker? old = some worker) :
    Twin old (worker.send .stop) session (session.letGo old scenario? worker) := by
  obtain ⟨empty, gone⟩ := agrees
  obtain ⟨positive, listed⟩ := worker?_eq_some_iff.mp found
  refine ⟨⟨worker?_setWorker_self found _, worker, ?_⟩, rfl, ?_, ?_, ?_⟩
  · obtain ⟨short, listed⟩ := List.getElem?_eq_some_iff.mp listed
    show session.workers = (session.workers.set _ _).set _ _
    rw [List.set_set, ← listed, List.set_getElem_self]
  · show session.current ≠ some old
    rw [empty]
    exact nofun
  · by_cases own : session.slot.runId = old
    · cases scenario? with
      | some scenario => exact .stale rfl own own
      | none =>
        rw [gone rfl] at own
        exact absurd own.symm positive
    · exact .same rfl own
  · exact .parting (.inl rfl) holding rfl

/-- Let a run be replaced or closed, and let anything happen after that. The calls get the same
answers as if the old worker had been let go at once and had not done anything since, and once no
load, step or close is half done the session is the same up to the old worker itself. If the old
worker is in the middle of a step, letting it go takes no more than two actions. -/
theorem exists_run?_without_replaced (movement : Movement μ) (before late : List Action)
    (session last : SharedSession μ) (earlier answers : List Answer) (old : Nat)
    (scenario? : Option Scenario) (worker : Worker μ)
    (reached : run? movement before {} = some (session, earlier))
    (replaced : session.holder = some (.stopping old scenario?))
    (found : session.worker? old = some worker)
    (ran : run? movement late session = some (last, answers)) :
    (∃ last',
      run? movement (without movement old late session) (session.letGo old scenario? worker) =
          some (last', answers) ∧
        last'.worker? old = some (worker.send .stop) ∧
        (last.isHalfDone = false → ∃ worker', last = last'.setWorker old worker')) ∧
      (worker.outstanding = 1 → worker.phase ≠ .reporting .stepFinished →
        run? movement [.proceed, .proceed] session =
          some (session.letGo old scenario? worker, [])) := by
  obtain ⟨coherent, turns, account⟩ := account_of_run? reached
  unfold Coherent at coherent
  rw [replaced] at coherent
  constructor
  · obtain ⟨last', ran', twin⟩ := (twin_letGo replaced coherent found).runs ran
    exact ⟨last', ran', twin.alike.still, twin.eq_setWorker⟩
  · intro owes unended
    obtain ⟨record, -, -, follows⟩ := account.covers.follows old worker found
    have tells : Acts movement session .proceed _ none := .proceeds replaced (.tells found)
    have busy : ((worker.send .stop).waiting || (worker.send .stop).phase = .exited) = false :=
      follows.busy owes unended
    have detaches : Acts movement
        ((session.setWorker old (worker.send .stop)).goTo (.parting old scenario?)) .proceed
        (session.letGo old scenario? worker) none :=
      .proceeds rfl (.detaches (by exact worker?_setWorker_self found _) busy)
    exact run?_cons_of_acts tells (run?_cons_of_acts detaches rfl)

private def brokenMovement : Movement Unit where
  start _ := ()
  update _ world _ := ⟨(), world, some (.panic none)⟩

private def oldScenario : Scenario := { name := "old", stepLength := .ofNat 1 }

private def newScenario : Scenario := { name := "new", stepLength := .ofNat 1 }

private def busyWorker : Worker Unit :=
  { Worker.start brokenMovement oldScenario with phase := .stepping none, waiting := false }

private def replacedSession : SharedSession Unit where
  slot := ⟨1, .stepping⟩
  workers := [some busyWorker]
  holder := some (.stopping 1 (some newScenario))

private def untilReplaced : List Action :=
  [.enter (.load oldScenario), .proceed, .proceed, .proceed, .proceed, .enter (.step none),
    .proceed, .proceed, .work 1, .proceed, .enter (.load newScenario), .proceed]

private def afterReplaced : List Action :=
  [.work 1, .proceed, .proceed, .proceed, .work 1, .proceed, .proceed]

/-- A run is replaced in the middle of a step. The step fails, and that is reported when the new
run has been announced. -/
theorem exists_run?_without_replaced_failing :
    run? brokenMovement untilReplaced {} = some (replacedSession, [.done, .done]) ∧
      ∃ last last',
        run? brokenMovement afterReplaced replacedSession = some (last, [.done]) ∧
          run? brokenMovement [.proceed, .proceed, .proceed]
              (replacedSession.letGo 1 (some newScenario) busyWorker) = some (last', [.done]) ∧
            (∃ worker', last = last'.setWorker 1 worker') ∧
              run? brokenMovement [.proceed, .proceed] replacedSession =
                some (replacedSession.letGo 1 (some newScenario) busyWorker, []) := by
  have reached : run? brokenMovement untilReplaced {} = some (replacedSession, [.done, .done]) := by
    rfl
  obtain ⟨last, ran⟩ : ∃ last, run? brokenMovement afterReplaced replacedSession =
      some (last, [.done]) := ⟨_, rfl⟩
  obtain ⟨⟨last', ran', -, same⟩, letGo⟩ := exists_run?_without_replaced brokenMovement untilReplaced
    afterReplaced replacedSession last _ _ 1 (some newScenario) busyWorker reached rfl rfl ran
  have whole : last.isHalfDone = false := by
    obtain ⟨rfl, -⟩ := Prod.mk.inj (Option.some.inj ran)
    rfl
  exact ⟨reached, last, last', ran, ran', same whole, letGo rfl nofun⟩

end SharedSession

end RemoteCrowd
