import RemoteCrowd.Proofs.Session.Actions
import RemoteCrowd.Session.Eager

/-!
Coherence of the shared session. The lock, the slot and the worker of the present run are
changed in different actions, but whenever no load, step or close is half done they say the
same: the slot speaks of the present run, and of a step just while the worker owes one. So
no call is ever answered that its run was replaced, or that its worker is gone, and nobody
sleeps through the end of a step.
-/

namespace RemoteCrowd

def Request.isStep : Request → Bool
  | .step _ => true
  | .stop => false

namespace Worker

variable {μ : Type}

/-- How many steps the worker owes: those in its queue, and the one that it has taken up and
not reported the end of. -/
def outstanding (worker : Worker μ) : Nat :=
  worker.queue.countP Request.isStep + if worker.phase.isInStep then 1 else 0

/-- Whether the worker still serves its run. Behind its last report it only exits. -/
def isServing (worker : Worker μ) : Bool :=
  match worker.phase with
  | .leaving | .exited => false
  | _ => true

/-- The worker is in one of the situations that go with a lifecycle of its run. -/
inductive Matches (worker : Worker μ) : Lifecycle → Prop where
  | waits (idle : worker.phase = .idle) (asked : worker.queue = [])
    (sound : worker.failure? = none) : Matches worker .loadedIdle
  | asked {target : Option Double} (idle : worker.phase = .idle)
    (asked : worker.queue = [.step target]) (sound : worker.failure? = none) :
    Matches worker .stepping
  | makes {target : Option Double} (stepping : worker.phase = .stepping target)
    (asked : worker.queue = []) (sound : worker.failure? = none) : Matches worker .stepping
  | pauses (reporting : worker.phase = .reporting .stepFinished) (asked : worker.queue = [])
    (sound : worker.failure? = none) : Matches worker .stepping
  | ends {outcome : RunOutcome} (reporting : worker.phase = .reporting (.runFinished outcome))
    (unforced : outcome ≠ .stopped) (asked : worker.queue = []) : Matches worker .stepping
  | finished {outcome : RunOutcome} (unforced : outcome ≠ .stopped)
    (gone : worker.isServing = false) (asked : worker.queue = []) :
    Matches worker outcome.lifecycle

namespace Matches

variable {worker : Worker μ} {lifecycle : Lifecycle}

theorem ne_noScenario (fits : worker.Matches lifecycle) : lifecycle ≠ .noScenario := by
  cases fits with
  | @finished outcome unforced gone asked =>
    cases outcome with
    | stopped => exact absurd rfl unforced
    | completed | failed reason => exact nofun
  | _ => exact nofun

private theorem isInStep_of_not_isServing (gone : worker.isServing = false) :
    worker.phase.isInStep = false := by
  unfold isServing at gone
  split at gone
  · next leaving => rw [leaving]; rfl
  · next exited => rw [exited]; rfl
  · cases gone

theorem stepping_iff (fits : worker.Matches lifecycle) :
    lifecycle = .stepping ↔ worker.outstanding = 1 := by
  unfold outstanding
  cases fits with
  | waits idle asked sound => simp [idle, asked, Phase.isInStep]
  | asked idle asked sound => simp [idle, asked, Phase.isInStep, Request.isStep]
  | makes stepping asked sound => simp [stepping, asked, Phase.isInStep]
  | pauses reporting asked sound => simp [reporting, asked, Phase.isInStep, Report.endsStep]
  | @ends outcome reporting unforced asked =>
    cases outcome with
    | stopped => exact absurd rfl unforced
    | completed | failed reason => simp [reporting, asked, Phase.isInStep, Report.endsStep]
  | @finished outcome unforced gone asked =>
    cases outcome <;> simp [isInStep_of_not_isServing gone, asked, RunOutcome.lifecycle]

theorem loadedIdle_iff (fits : worker.Matches lifecycle) :
    lifecycle = .loadedIdle ↔ worker.isServing = true ∧ worker.outstanding = 0 := by
  unfold outstanding
  cases fits with
  | waits idle asked sound => simp [idle, asked, Phase.isInStep, isServing]
  | asked idle asked sound => simp [asked, Request.isStep]
  | makes stepping asked sound => simp [stepping, Phase.isInStep]
  | pauses reporting asked sound => simp [reporting, Phase.isInStep, Report.endsStep]
  | @ends outcome reporting unforced asked =>
    cases outcome with
    | stopped => exact absurd rfl unforced
    | completed | failed reason => simp [reporting, Phase.isInStep, Report.endsStep]
  | @finished outcome unforced gone asked => cases outcome <;> simp [gone, RunOutcome.lifecycle]

/-- Between two steps the worker waits for a request. -/
theorem idle_of_loadedIdle (fits : worker.Matches .loadedIdle) :
    worker.phase = .idle ∧ worker.queue = [] ∧ worker.failure? = none := by
  generalize same : Lifecycle.loadedIdle = lifecycle at fits
  cases fits with
  | waits idle asked sound => exact ⟨idle, asked, sound⟩
  | @finished outcome unforced gone asked => cases outcome <;> cases same
  | _ => cases same

/-- What happens to the course of the run is no matter to the slot. -/
theorem withCourse (fits : worker.Matches lifecycle) (course : Course μ) :
    { worker with course }.Matches lifecycle := by
  cases fits with
  | waits idle asked sound => exact .waits idle asked sound
  | asked idle asked sound => exact .asked idle asked sound
  | makes stepping asked sound => exact .makes stepping asked sound
  | pauses reporting asked sound => exact .pauses reporting asked sound
  | ends reporting unforced asked => exact .ends reporting unforced asked
  | finished unforced gone asked => exact .finished unforced gone asked

/-- What a worker does keeps it in step with the slot that hears its reports. -/
theorem goes {movement : Movement μ} {after : Worker μ} {report? : Option Report}
    (fits : worker.Matches lifecycle) (goes : worker.Goes movement after report?) (run : Nat) :
    after.Matches ((Slot.mk run lifecycle).heard run report?).lifecycle := by
  cases goes with
  | begins idle asked =>
    cases fits with
    | asked idle' asked' sound =>
      obtain ⟨-, rfl⟩ := List.cons.inj (asked.symm.trans asked')
      exact .makes rfl rfl sound
    | finished unforced gone asked' => cases asked.symm.trans asked'
    | _ => simp_all
  | stops idle asked => cases fits <;> simp_all
  | @updates target stepping ready =>
    cases fits with
    | makes stepping' asked sound =>
      have queue : (worker.update movement target).queue = [] := by rw [queue_update, asked]
      have updated := updated_update movement stepping
      generalize phase : (worker.update movement target).phase = phase' at updated
      generalize failure : (worker.update movement target).failure? = failure' at updated
      cases updated with
      | ahead => exact .makes phase queue (failure.trans sound)
      | paused => exact .pauses phase queue (failure.trans sound)
      | completed => exact .ends phase nofun queue
      | failed reason => exact .ends phase nofun queue
    | finished unforced gone asked => simp [isServing, stepping] at gone
    | _ => simp_all
  | reports reporting =>
    cases fits with
    | pauses reporting' asked sound =>
      obtain rfl := Phase.reporting.inj (reporting.symm.trans reporting')
      simp only [Slot.heard, Slot.note, if_true]
      exact .waits rfl asked sound
    | ends reporting' unforced asked =>
      obtain rfl := Phase.reporting.inj (reporting.symm.trans reporting')
      simp only [Slot.heard, Slot.note, if_true]
      exact .finished unforced rfl asked
    | finished unforced gone asked => simp [isServing, reporting] at gone
    | _ => simp_all
  | exits leaving =>
    cases fits with
    | finished unforced gone asked => exact .finished unforced rfl asked
    | _ => simp_all

end Matches

end Worker

/-- The answer is none of those that a call gets only if the slot has lost touch with the
present run. -/
def Answer.IsFair (answer : Answer) : Prop :=
  answer ≠ .refused (.access .replaced) ∧ answer ≠ .refused (.access .interrupted) ∧
    answer ≠ .refused (.access .threadExited)

theorem Lifecycle.isFair_of_checkUsable {lifecycle : Lifecycle} {cause : Error}
    (refused : lifecycle.checkUsable = .error cause) : (Answer.refused cause).IsFair := by
  cases lifecycle with
  | loadedIdle | stepping => cases refused
  | noScenario | finished | failed reason =>
    obtain rfl := Except.error.inj refused
    exact ⟨nofun, nofun, nofun⟩

theorem RunOutcome.lifecycle_ne_stepping (outcome : RunOutcome) :
    outcome.lifecycle ≠ .stepping := by
  cases outcome <;> exact fun same => by cases same

namespace Slot

variable {slot after : Slot} {run : Nat} {cause : Error}

theorem checkUsable_own (own : slot.runId = run) :
    slot.checkUsable run = slot.lifecycle.checkUsable := if_pos own

/-- A step begins only between two steps. -/
theorem beginStep_eq_ok (own : slot.runId = run) (begun : slot.beginStep run = .ok after) :
    slot.lifecycle = .loadedIdle ∧ after = ⟨run, .stepping⟩ := by
  rw [beginStep, checkUsable_own own] at begun
  cases lifecycle : slot.lifecycle with
  | loadedIdle =>
    rw [lifecycle] at begun
    obtain rfl := Except.ok.inj begun
    rw [own]
    exact ⟨rfl, rfl⟩
  | noScenario | stepping | finished | failed reason =>
    rw [lifecycle] at begun
    cases begun

theorem isFair_of_beginStep (own : slot.runId = run) (refused : slot.beginStep run = .error cause) :
    (Answer.refused cause).IsFair := by
  rw [beginStep, checkUsable_own own] at refused
  cases lifecycle : slot.lifecycle with
  | loadedIdle =>
    rw [lifecycle] at refused
    cases refused
  | stepping =>
    rw [lifecycle] at refused
    obtain rfl := Except.error.inj refused
    exact ⟨nofun, nofun, nofun⟩
  | noScenario | finished | failed reason =>
    rw [lifecycle] at refused
    obtain rfl := Except.error.inj refused
    exact ⟨nofun, nofun, nofun⟩

theorem isFair_of_stepEnd? (own : slot.runId = run)
    (ended : slot.stepEnd? run = some (.error cause)) : (Answer.refused cause).IsFair := by
  rw [stepEnd?, if_pos own] at ended
  split at ended
  · cases ended
  · exact Lifecycle.isFair_of_checkUsable (Option.some.inj ended)

/-- The state is seen only between two steps. -/
theorem stepEnd?_eq_ok (own : slot.runId = run) (ended : slot.stepEnd? run = some (.ok ())) :
    slot = ⟨run, .loadedIdle⟩ := by
  obtain ⟨runId, lifecycle⟩ := slot
  subst own
  rw [stepEnd?, if_pos rfl] at ended
  cases lifecycle with
  | loadedIdle => rfl
  | noScenario | stepping | finished | failed reason => cases ended

theorem stepEnd?_eq_none (own : slot.runId = run) (busy : slot.stepEnd? run = none) :
    slot.lifecycle = .stepping := by
  rw [stepEnd?, if_pos own] at busy
  split at busy
  · assumption
  · cases busy

/-- Whatever is reported, no step is in progress behind it unless it was one of another run. -/
theorem lifecycle_note_ne_stepping (own : slot.lifecycle = .stepping → slot.runId = run)
    (report : Report) : (slot.note run report).lifecycle ≠ .stepping := by
  unfold note
  split
  · cases report with
    | stepFinished =>
      show (if slot.lifecycle = .stepping then _ else slot).lifecycle ≠ _
      split
      · exact fun same => by cases same
      · assumption
    | runFinished outcome => exact outcome.lifecycle_ne_stepping
  · next apart => exact fun same => apart (own same)

end Slot

namespace SharedSession

variable {μ : Type} {movement : Movement μ} {session : SharedSession μ} {broken : Prop}

/-- The movement of the last run that was to be loaded could not be made. The slot still speaks of
this run as if it waited, but there is no worker. -/
def Stranded (session : SharedSession μ) : Prop :=
  session.slot = ⟨session.workers.length, .loadedIdle⟩ ∧ session.workers.getLast? = some none

theorem Stranded.worker?_eq_none (stranded : session.Stranded) :
    session.worker? session.slot.runId = none := by
  obtain ⟨waits, orphan⟩ := stranded
  rw [waits]
  cases found : session.worker? session.workers.length with
  | none => rfl
  | some worker =>
    have last := (worker?_eq_some_iff.mp found).2
    rw [← List.getLast?_eq_getElem?, orphan] at last
    cases last

/-- The slot, the present run and its worker say the same. Only if a load has broken off before, the
slot may speak of a run that there is not. -/
def Agrees (broken : Prop) (session : SharedSession μ) : Prop :=
  match session.current with
  | none => session.slot = {} ∨ broken ∧ session.Stranded
  | some run =>
    session.slot.runId = run ∧
      ∃ worker, session.worker? run = some worker ∧ worker.Matches session.slot.lifecycle

theorem agrees_iff_of_eq_none (empty : session.current = none) :
    session.Agrees broken ↔ session.slot = {} ∨ broken ∧ session.Stranded := by
  rw [Agrees, empty]

theorem agrees_iff_of_eq_some {run : Nat} (present : session.current = some run) :
    session.Agrees broken ↔ session.slot.runId = run ∧
      ∃ worker, session.worker? run = some worker ∧ worker.Matches session.slot.lifecycle := by
  rw [Agrees, present]

/-- The worker of the present run waits for a request, whatever the slot says of it. -/
def Rests (session : SharedSession μ) (run : Nat) (lifecycle : Lifecycle) : Prop :=
  session.current = some run ∧ session.slot = ⟨run, lifecycle⟩ ∧
    ∃ worker, session.worker? run = some worker ∧ worker.Matches .loadedIdle

/-- What is known while the holder of the lock is at a stage. In the middle of a load, a step
or a close only a part of the session speaks of the present run. Whoever sleeps does so during a
step. -/
def AgreesAt (broken : Prop) (session : SharedSession μ) : Stage → Prop
  | .entered _ => session.Agrees broken
  | .leaving answer => session.Agrees broken ∧ answer.IsFair
  | .stopping _ scenario? | .parting _ scenario? | .joining _ scenario? =>
    session.current = none ∧ (scenario? = none → session.slot = {})
  | .announcing _ => session.current = none
  | .starting run _ =>
    session.current = none ∧ run = session.nextId ∧ session.slot = ⟨run, .loadedIdle⟩
  | .requesting run _ => session.Rests run .stepping
  | .checking run _ => session.Agrees broken ∧ session.current = some run
  | .asleep run _ =>
    session.Agrees broken ∧ session.current = some run ∧ session.slot.lifecycle = .stepping
  | .handling run _ => session.Rests run .loadedIdle
  | .aborting .. => False

/-- What is known between any two actions. -/
def Coherent (broken : Prop) (session : SharedSession μ) : Prop :=
  match session.holder with
  | none => session.Agrees broken
  | some stage => session.AgreesAt broken stage

/-- A worker is heard by the slot only if the slot speaks of its run. -/
theorem heard_eq_of_orphan {run : Nat} {worker : Worker μ}
    (found : session.worker? run = some worker)
    (orphan : session.worker? session.slot.runId = none) (report? : Option Report) :
    session.slot.heard run report? = session.slot := by
  refine Slot.heard_of_ne (fun own => ?_) report?
  rw [own, found] at orphan
  cases orphan

theorem Stranded.setWorker (stranded : session.Stranded) {run : Nat} {worker : Worker μ}
    (found : session.worker? run = some worker) (after : Worker μ) :
    (session.setWorker run after).Stranded := by
  obtain ⟨positive, found'⟩ := worker?_eq_some_iff.mp found
  obtain ⟨waits, orphan⟩ := stranded
  constructor
  · rw [SharedSession.setWorker, List.length_set]
    exact waits
  · rw [List.getLast?_eq_getElem?] at orphan ⊢
    have other : run - 1 ≠ session.workers.length - 1 := by
      intro same
      rw [same, orphan] at found'
      cases found'
    rw [SharedSession.setWorker, List.length_set, List.getElem?_set_ne other]
    exact orphan

theorem Agrees.works (agrees : session.Agrees broken) {run : Nat} {worker after : Worker μ}
    {report? : Option Report} (found : session.worker? run = some worker)
    (goes : worker.Goes movement after report?) :
    (session.worked run after report?).Agrees broken := by
  cases present : session.current with
  | none =>
    rw [agrees_iff_of_eq_none (by rw [current_worked, present]), slot_worked]
    rcases (agrees_iff_of_eq_none present).mp agrees with empty | ⟨broke, stranded⟩
    · have orphan : session.worker? session.slot.runId = none := by
        rw [empty]
        rfl
      exact .inl ((heard_eq_of_orphan found orphan report?).trans empty)
    · obtain ⟨waits, orphan⟩ := stranded.setWorker found after
      refine .inr ⟨broke, ?_, ?_⟩
      · rw [slot_worked, heard_eq_of_orphan found stranded.worker?_eq_none, workers_worked]
        exact waits
      · rw [workers_worked]
        exact orphan
  | some current =>
    obtain ⟨own, known, foundKnown, fits⟩ := (agrees_iff_of_eq_some present).mp agrees
    rw [agrees_iff_of_eq_some (by rw [current_worked, present]), slot_worked, Slot.runId_heard,
      worker?_worked]
    refine ⟨own, ?_⟩
    by_cases same : run = current
    · subst same
      obtain rfl := Option.some.inj (found.symm.trans foundKnown)
      have fits' := fits.goes goes run
      rw [← own] at fits' ⊢
      exact ⟨after, worker?_setWorker_self (own ▸ found) after, fits'⟩
    · have apart : session.slot.runId ≠ run := fun equal => same (equal.symm.trans own)
      rw [worker?_setWorker_of_ne (pos_of_worker? found) (Ne.symm same), Slot.heard_of_ne apart]
      exact ⟨known, foundKnown, fits⟩

theorem not_goes_of_matches_loadedIdle {worker after : Worker μ} {report? : Option Report}
    (fits : worker.Matches .loadedIdle) : ¬worker.Goes movement after report? := by
  intro goes
  obtain ⟨idle, asked, -⟩ := fits.idle_of_loadedIdle
  cases goes with
  | begins idle' asked' => cases asked.symm.trans asked'
  | stops idle' asked' => cases asked.symm.trans asked'
  | updates stepping => cases idle.symm.trans stepping
  | reports reporting => cases idle.symm.trans reporting
  | exits leaving => cases idle.symm.trans leaving

/-- A worker that goes on is not the one that waits. -/
theorem Rests.works {own : Nat} {lifecycle : Lifecycle} (rests : session.Rests own lifecycle)
    {run : Nat} {worker after : Worker μ} {report? : Option Report}
    (found : session.worker? run = some worker) (goes : worker.Goes movement after report?) :
    own ≠ run ∧ (session.worked run after report?).Rests own lifecycle := by
  obtain ⟨present, speaks, known, foundKnown, fits⟩ := rests
  have other : own ≠ run := by
    intro same
    subst same
    obtain rfl := Option.some.inj (found.symm.trans foundKnown)
    exact not_goes_of_matches_loadedIdle fits goes
  have apart : session.slot.runId ≠ run := by rw [speaks]; exact other
  refine ⟨other, (current_worked ..).trans present, ?_, known, ?_, fits⟩
  · exact (slot_worked ..).trans ((Slot.heard_of_ne apart report?).trans speaks)
  · rw [worker?_worked, worker?_setWorker_of_ne (pos_of_worker? found) other]
    exact foundKnown

theorem Rests.agrees {run : Nat} (rests : session.Rests run .loadedIdle) :
    session.Agrees broken := by
  obtain ⟨present, speaks, worker, found, fits⟩ := rests
  rw [agrees_iff_of_eq_some present, speaks]
  exact ⟨rfl, worker, found, fits⟩

/-- The slot of a session goes on to speak of a step as long as nobody is woken. -/
theorem heard_eq_or_wokenBy (session : SharedSession μ) (run : Nat) (report? : Option Report)
    (own : Nat) (change : World → World) :
    session.slot.heard run report? = session.slot ∧
        session.wokenBy run report? (.asleep own change) = .asleep own change ∨
      session.wokenBy run report? (.asleep own change) = .checking own change := by
  cases report? with
  | none => exact .inl ⟨rfl, rfl⟩
  | some report =>
    by_cases same : session.slot.runId = run
    · exact .inr (if_pos same)
    · exact .inl ⟨Slot.heard_of_ne same _, if_neg same⟩

theorem AgreesAt.works {stage : Stage} (agrees : session.AgreesAt broken stage) {run : Nat}
    {worker after : Worker μ} {report? : Option Report}
    (found : session.worker? run = some worker) (goes : worker.Goes movement after report?) :
    (session.worked run after report?).AgreesAt broken (session.wokenBy run report? stage) := by
  by_cases sleeps : ∃ own change, stage = .asleep own change
  · obtain ⟨own, change, rfl⟩ := sleeps
    obtain ⟨agrees, present, stepping⟩ := agrees
    have agrees' := Agrees.works agrees found goes
    have present' := (current_worked session run after report?).trans present
    obtain ⟨same, sleeps⟩ | wakes := heard_eq_or_wokenBy session run report? own change
    · rw [sleeps]
      refine ⟨agrees', present', ?_⟩
      rw [slot_worked, same]
      exact stepping
    · rw [wakes]
      exact ⟨agrees', present'⟩
  rw [wokenBy_of_awake fun own change asleep => sleeps ⟨own, change, asleep⟩]
  cases stage with
  | entered call => exact Agrees.works agrees found goes
  | leaving answer => exact ⟨Agrees.works agrees.1 found goes, agrees.2⟩
  | stopping run' scenario? | parting run' scenario? | joining run' scenario? =>
    obtain ⟨empty, gone⟩ := agrees
    refine ⟨(current_worked ..).trans empty, fun last => ?_⟩
    have orphan : session.worker? session.slot.runId = none := by
      rw [gone last]
      rfl
    rw [slot_worked, heard_eq_of_orphan found orphan]
    exact gone last
  | announcing scenario => exact (current_worked ..).trans agrees
  | starting next scenario =>
    obtain ⟨empty, rfl, announced⟩ := agrees
    have orphan : session.worker? session.slot.runId = none := by
      rw [announced]
      exact session.worker?_nextId
    refine ⟨(current_worked ..).trans empty, (nextId_worked ..).symm, ?_⟩
    rw [slot_worked, heard_eq_of_orphan found orphan]
    exact announced
  | requesting own target => exact (Rests.works agrees found goes).2
  | checking own change =>
    exact ⟨Agrees.works agrees.1 found goes, (current_worked ..).trans agrees.2⟩
  | asleep own change => exact absurd ⟨own, change, rfl⟩ sleeps
  | handling own change => exact (Rests.works agrees found goes).2
  | aborting run' cause => exact agrees

/-- The session in which the course of a run has changed, and nothing else. -/
private theorem Agrees.withCourse (agrees : session.Agrees broken) {run : Nat} {worker : Worker μ}
    (found : session.worker? run = some worker) (course : Course μ) :
    (session.setWorker run { worker with course }).Agrees broken := by
  cases present : session.current with
  | none =>
    rw [agrees_iff_of_eq_none (by exact present)]
    exact ((agrees_iff_of_eq_none present).mp agrees).imp_right
      (And.imp_right fun stranded => stranded.setWorker found _)
  | some current =>
    obtain ⟨own, known, foundKnown, fits⟩ := (agrees_iff_of_eq_some present).mp agrees
    rw [agrees_iff_of_eq_some (by exact present)]
    refine ⟨own, ?_⟩
    by_cases same : current = run
    · subst same
      obtain rfl := Option.some.inj (found.symm.trans foundKnown)
      exact ⟨_, worker?_setWorker_self found _, fits.withCourse course⟩
    · rw [worker?_setWorker_of_ne (pos_of_worker? found) same]
      exact ⟨known, foundKnown, fits⟩

private theorem Rests.withCourse {own : Nat} {lifecycle : Lifecycle}
    (rests : session.Rests own lifecycle) {run : Nat} {worker : Worker μ}
    (found : session.worker? run = some worker) (course : Course μ) :
    (session.setWorker run { worker with course }).Rests own lifecycle := by
  obtain ⟨present, speaks, known, foundKnown, fits⟩ := rests
  refine ⟨present, speaks, ?_⟩
  by_cases same : own = run
  · subst same
    obtain rfl := Option.some.inj (found.symm.trans foundKnown)
    exact ⟨_, worker?_setWorker_self found _, fits.withCourse course⟩
  · rw [worker?_setWorker_of_ne (pos_of_worker? found) same]
    exact ⟨known, foundKnown, fits⟩

theorem AgreesAt.withCourse {stage : Stage} (agrees : session.AgreesAt broken stage) {run : Nat}
    {worker : Worker μ} (found : session.worker? run = some worker) (course : Course μ) :
    (session.setWorker run { worker with course }).AgreesAt broken stage := by
  cases stage with
  | entered call => exact Agrees.withCourse agrees found course
  | leaving answer => exact ⟨Agrees.withCourse agrees.1 found course, agrees.2⟩
  | stopping run' scenario? | parting run' scenario? | joining run' scenario? => exact agrees
  | announcing scenario => exact agrees
  | starting next scenario =>
    obtain ⟨empty, rfl, announced⟩ := agrees
    exact ⟨empty, (nextId_setWorker ..).symm, announced⟩
  | requesting own target => exact Rests.withCourse agrees found course
  | checking own change => exact ⟨Agrees.withCourse agrees.1 found course, agrees.2⟩
  | asleep own change => exact ⟨Agrees.withCourse agrees.1 found course, agrees.2⟩
  | handling own change => exact Rests.withCourse agrees found course
  | aborting run' cause => exact agrees

theorem AgreesAt.afterParting {scenario? : Option Scenario} (empty : session.current = none)
    (gone : scenario? = none → session.slot = {}) :
    session.AgreesAt broken (afterParting scenario?) := by
  cases scenario? with
  | some scenario => exact empty
  | none => exact ⟨(agrees_iff_of_eq_none empty).mpr (.inl (gone rfl)), nofun, nofun, nofun⟩

/-- A new run agrees with the slot that has announced it. -/
theorem Agrees.starts {run : Nat} {scenario : Scenario} (next : run = session.nextId)
    (announced : session.slot = ⟨run, .loadedIdle⟩) :
    Agrees broken { session.addWorker (some (.start movement scenario)) with
      current := some run } := by
  rw [agrees_iff_of_eq_some rfl]
  refine ⟨congrArg Slot.runId announced, Worker.start movement scenario, ?_, ?_⟩
  · subst next
    exact worker?_addWorker_self session _
  · show Worker.Matches _ session.slot.lifecycle
    rw [announced]
    exact .waits rfl rfl rfl

/-- A run whose movement cannot be made leaves the slot stranded. -/
theorem stranded_addWorker {run : Nat} (next : run = session.nextId)
    (announced : session.slot = ⟨run, .loadedIdle⟩) : (session.addWorker none).Stranded := by
  subst next
  constructor
  · rw [addWorker, List.length_append]
    exact announced
  · rw [addWorker, List.getLast?_concat]

/-- A worker that waits for a request accepts it. -/
theorem requestStep_eq {run : Nat} {target : Option Double} {worker : Worker μ}
    (fits : worker.Matches .loadedIdle) :
    session.requestStep run target worker =
      (session.setWorker run { worker.send (.step target) with waiting := false }).goTo
        (.leaving .done) := by
  obtain ⟨idle, -, sound⟩ := fits.idle_of_loadedIdle
  simp only [requestStep, sound, idle]
  rfl

/-- A request is accepted, and the step has begun. -/
theorem AgreesAt.requests {run : Nat} {target : Option Double} {worker : Worker μ}
    (agrees : session.AgreesAt broken (.requesting run target))
    (found : session.worker? run = some worker) :
    (session.requestStep run target worker).Coherent broken := by
  obtain ⟨present, begun, known, foundKnown, fits⟩ := agrees
  obtain rfl := Option.some.inj (found.symm.trans foundKnown)
  obtain ⟨idle, asked, sound⟩ := fits.idle_of_loadedIdle
  rw [requestStep_eq fits]
  refine ⟨?_, nofun, nofun, nofun⟩
  rw [agrees_iff_of_eq_some (by exact present)]
  refine ⟨congrArg Slot.runId begun, _, worker?_setWorker_self found _, ?_⟩
  have queue : worker.queue ++ [.step target] = [.step target] := by rw [asked]; rfl
  show Worker.Matches _ session.slot.lifecycle
  rw [begun]
  exact .asked idle queue sound

theorem AgreesAt.proceeds {stage : Stage} {after : SharedSession μ} {answer? : Option Answer}
    (agrees : session.AgreesAt broken stage)
    (proceeds : Proceeds movement session stage after answer?) : after.Coherent broken := by
  cases proceeds with
  | loadsFirst empty => exact empty
  | loadsNext present => exact ⟨rfl, nofun⟩
  | stepsNowhere empty => exact ⟨agrees, nofun, nofun, nofun⟩
  | stepRefused present refused =>
    obtain ⟨own, -⟩ := (agrees_iff_of_eq_some present).mp agrees
    exact ⟨agrees, Slot.isFair_of_beginStep own refused⟩
  | stepBegins present begun =>
    obtain ⟨own, worker, found, fits⟩ := (agrees_iff_of_eq_some present).mp agrees
    obtain ⟨idle, rfl⟩ := Slot.beginStep_eq_ok own begun
    rw [idle] at fits
    exact ⟨present, rfl, worker, found, fits⟩
  | looksNowhere empty => exact ⟨agrees, nofun, nofun, nofun⟩
  | looks present => exact ⟨agrees, present⟩
  | fallsAsleep busy =>
    obtain ⟨agrees, present⟩ := agrees
    obtain ⟨own, -⟩ := (agrees_iff_of_eq_some present).mp agrees
    exact ⟨agrees, present, Slot.stepEnd?_eq_none own busy⟩
  | lookRefused ended =>
    obtain ⟨agrees, present⟩ := agrees
    obtain ⟨own, -⟩ := (agrees_iff_of_eq_some present).mp agrees
    exact ⟨agrees, Slot.isFair_of_stepEnd? own ended⟩
  | lookBegins ended =>
    obtain ⟨agrees, present⟩ := agrees
    obtain ⟨own, worker, found, fits⟩ := (agrees_iff_of_eq_some present).mp agrees
    have idle := Slot.stepEnd?_eq_ok own ended
    rw [idle] at fits
    exact ⟨present, idle, worker, found, fits⟩
  | closesNothing empty => exact ⟨agrees, nofun, nofun, nofun⟩
  | closes present => exact ⟨rfl, fun _ => rfl⟩
  | tells found => exact agrees
  | awaits found idle => exact agrees
  | detaches found busy => exact AgreesAt.afterParting agrees.1 agrees.2
  | joins found exited => exact AgreesAt.afterParting agrees.1 agrees.2
  | announces => exact ⟨agrees, rfl, rfl⟩
  | starts =>
    have starts := @Agrees.starts μ movement session broken
    exact ⟨starts agrees.2.1 agrees.2.2, nofun, nofun, nofun⟩
  | requests found => exact agrees.requests found
  | aborts => exact agrees.elim
  | handles found => exact ⟨Agrees.withCourse (Rests.agrees agrees) found _, nofun, nofun, nofun⟩
  | leaves => exact agrees.1

/-- Only a caller that gives the lock back answers, and it does so fairly. -/
theorem AgreesAt.isFair {stage : Stage} {after : SharedSession μ} {answer? : Option Answer}
    (agrees : session.AgreesAt broken stage)
    (proceeds : Proceeds movement session stage after answer?) {answer : Answer}
    (given : answer ∈ answer?) : answer.IsFair := by
  cases proceeds with
  | leaves =>
    obtain rfl := Option.some.inj given
    exact agrees.2
  | _ => cases given

theorem Coherent.acts {action : Action} {after : SharedSession μ} {answer? : Option Answer}
    (coherent : session.Coherent broken) (acts : Acts movement session action after answer?)
    (breaks : action = .breakOff → broken) :
    after.Coherent broken ∧ ∀ answer ∈ answer?, answer.IsFair := by
  cases acts with
  | enters free =>
    simp only [Coherent, free] at coherent
    exact ⟨coherent, nofun⟩
  | proceeds holding proceeds =>
    simp only [Coherent, holding] at coherent
    exact ⟨coherent.proceeds proceeds, fun _ given => coherent.isFair proceeds given⟩
  | fails starting =>
    simp only [Coherent, starting] at coherent
    refine ⟨⟨?_, nofun, nofun, nofun⟩, nofun⟩
    exact (agrees_iff_of_eq_none (by exact coherent.1)).mpr (.inl rfl)
  | breaksOff starting =>
    simp only [Coherent, starting] at coherent
    obtain ⟨empty, next, announced⟩ := coherent
    refine ⟨⟨?_, nofun, nofun, nofun⟩, nofun⟩
    have stranded := stranded_addWorker next announced
    exact (agrees_iff_of_eq_none (by exact empty)).mpr (.inr ⟨breaks rfl, stranded⟩)
  | works found goes =>
    refine ⟨?_, nofun⟩
    unfold Coherent at coherent ⊢
    rw [holder_worked]
    cases holding : session.holder with
    | none =>
      rw [holding] at coherent
      exact Agrees.works coherent found goes
    | some stage =>
      rw [holding] at coherent
      exact AgreesAt.works coherent found goes
  | @signals run isOpen worker found =>
    refine ⟨?_, nofun⟩
    unfold Coherent at coherent ⊢
    rw [holder_setWorker]
    cases holding : session.holder with
    | none =>
      rw [holding] at coherent
      exact Agrees.withCourse coherent found _
    | some stage =>
      rw [holding] at coherent
      exact AgreesAt.withCourse coherent found _

theorem Agrees.mono {broken' : Prop} (agrees : session.Agrees broken) (breaks : broken → broken') :
    session.Agrees broken' := by
  cases present : session.current with
  | none =>
    exact (agrees_iff_of_eq_none present).mpr
      (((agrees_iff_of_eq_none present).mp agrees).imp_right (And.imp_left breaks))
  | some run =>
    exact (agrees_iff_of_eq_some present).mpr ((agrees_iff_of_eq_some present).mp agrees)

theorem Coherent.mono {broken' : Prop} (coherent : session.Coherent broken)
    (breaks : broken → broken') : session.Coherent broken' := by
  unfold Coherent at coherent ⊢
  split
  · next free =>
    rw [free] at coherent
    exact Agrees.mono coherent breaks
  · next stage holding =>
    rw [holding] at coherent
    cases stage with
    | entered => exact Agrees.mono coherent breaks
    | leaving | checking | asleep => exact ⟨Agrees.mono coherent.1 breaks, coherent.2⟩
    | _ => exact coherent

theorem coherent_start : ({} : SharedSession μ).Coherent broken :=
  show ({} : SharedSession μ).Agrees broken from (agrees_iff_of_eq_none rfl).mpr (.inl rfl)

/-- Whether a load has broken off is told by the actions so far. -/
theorem Coherent.actsBehind {actions : List Action} {action : Action} {after : SharedSession μ}
    {answer? : Option Answer} (coherent : session.Coherent (.breakOff ∈ actions))
    (acts : Acts movement session action after answer?) :
    after.Coherent (.breakOff ∈ actions ++ [action]) ∧ ∀ answer ∈ answer?, answer.IsFair :=
  (coherent.mono (List.mem_append_left [action])).acts acts fun breaks => by simp [breaks]

theorem coherent_of_run? {actions : List Action} {answers : List Answer}
    (ran : run? movement actions {} = some (session, answers)) :
    session.Coherent (.breakOff ∈ actions) ∧ ∀ answer ∈ answers, answer.IsFair := by
  refine run?_history
    (fun actions answers session =>
      session.Coherent (.breakOff ∈ actions) ∧ ∀ answer ∈ answers, answer.IsFair)
    ⟨coherent_start, nofun⟩ ?_ ran
  intro actions answers session action after answer? kept acts
  obtain ⟨coherent, fair⟩ := kept
  obtain ⟨coherentAfter, fairAfter⟩ := coherent.actsBehind acts
  refine ⟨coherentAfter, fun answer member => ?_⟩
  rcases List.mem_append.mp member with earlier | last
  · exact fair answer earlier
  · exact fairAfter answer (Option.mem_toList.mp last)

/-- A worker that owes a step goes on, unless its movement waits for a signal. -/
theorem ready_eq_false_of_next?_eq_none {worker : Worker μ} (fits : worker.Matches .stepping)
    (stuck : worker.next? movement = none) : movement.ready worker.course.memory = false := by
  generalize same : Lifecycle.stepping = lifecycle at fits
  cases fits with
  | waits idle asked sound => cases same
  | asked idle asked sound => simp [Worker.next?, idle, asked] at stuck
  | makes stepping asked sound => simpa [Worker.next?, stepping] using stuck
  | pauses reporting asked sound => simp [Worker.next?, reporting] at stuck
  | ends reporting unforced asked => simp [Worker.next?, reporting] at stuck
  | @finished outcome unforced gone asked => cases outcome <;> cases same

/-- The worker of the run that somebody waits for goes on, if its movement does not wait for a
signal. The sleeper sleeps on, or is woken because the step is over. -/
theorem exists_works_of_asleep (ready : ∀ memory, movement.ready memory = true) {run : Nat}
    {change : World → World} (coherent : session.Coherent broken)
    (asleep : session.holder = some (.asleep run change)) :
    ∃ after, act? movement session (.work run) = some (after, none) ∧ after.Coherent broken ∧
      (after.holder = some (.asleep run change) ∨
        after.holder = some (.checking run change) ∧ after.slot.lifecycle ≠ .stepping) := by
  have agrees := coherent
  simp only [Coherent, asleep] at agrees
  obtain ⟨agrees, present, stepping⟩ := agrees
  obtain ⟨own, worker, found, fits⟩ := (agrees_iff_of_eq_some present).mp agrees
  rw [stepping] at fits
  cases next : worker.next? movement with
  | none =>
    have stuck := ready_eq_false_of_next?_eq_none fits next
    rw [ready] at stuck
    cases stuck
  | some moved =>
    obtain ⟨worker', report?⟩ := moved
    have acts : Acts movement session (.work run) (session.worked run worker' report?) none :=
      .works found (Worker.next?_eq_some_iff.mp next)
    refine ⟨_, act?_eq_some_iff.mpr acts, (coherent.acts acts nofun).1, ?_⟩
    rw [holder_worked, asleep, Option.map_some, slot_worked]
    cases report? with
    | none => exact .inl rfl
    | some report =>
      refine .inr ⟨congrArg some (if_pos own), ?_⟩
      exact Slot.lifecycle_note_ne_stepping (fun _ => own) report

/-- If the movement never waits, the worker alone wakes whoever sleeps, unless the step goes on for
ever. -/
theorem woken_or_endless (ready : ∀ memory, movement.ready memory = true) {run : Nat}
    {change : World → World} (coherent : session.Coherent broken)
    (asleep : session.holder = some (.asleep run change)) :
    (∃ steps after, run? movement (List.replicate steps (.work run)) session = some (after, []) ∧
        after.holder = some (.checking run change) ∧ after.slot.lifecycle ≠ .stepping) ∨
      ∀ steps, ∃ after, run? movement (List.replicate steps (.work run)) session =
          some (after, []) ∧ after.holder = some (.asleep run change) := by
  refine Classical.or_iff_not_imp_left.mpr fun never steps => ?_
  have sleeps : ∃ after, run? movement (List.replicate steps (.work run)) session =
      some (after, []) ∧ after.Coherent broken ∧ after.holder = some (.asleep run change) := by
    induction steps with
    | zero => exact ⟨session, rfl, coherent, asleep⟩
    | succ steps ih =>
      obtain ⟨between, ran, coherent', asleep'⟩ := ih
      obtain ⟨after, acted, coherentAfter, stands⟩ :=
        exists_works_of_asleep ready coherent' asleep'
      have last : run? movement [.work run] between = some (after, []) :=
        run?_cons_eq_some_iff.mpr ⟨after, none, [], acted, rfl, rfl⟩
      have ran' := run?_append ran last
      rw [← List.replicate_succ'] at ran'
      rcases stands with asleep'' | ⟨checking, settled⟩
      · exact ⟨after, ran', coherentAfter, asleep''⟩
      · exact absurd ⟨steps + 1, after, ran', checking, settled⟩ never
  obtain ⟨after, ran, -, asleep'⟩ := sleeps
  exact ⟨after, ran, asleep'⟩

/-- Whether the holder of the lock is in the middle of a load, a step or a close. -/
def isHalfDone (session : SharedSession μ) : Bool :=
  match session.holder with
  | none | some (.entered _) | some (.checking ..) | some (.asleep ..) | some (.handling ..)
  | some (.leaving _) => false
  | _ => true

/-- The session says one thing of the present run. If there is none the slot says so too, with one
exception: if the movement of the last run to be loaded could not be made, the slot speaks of that
run as one that waits. -/
structure Settled (broken : Prop) (session : SharedSession μ) : Prop where
  empty : session.current = none →
    session.slot.lifecycle = .noScenario ∨ broken ∧ session.Stranded
  present : ∀ run, session.current = some run →
    run ≠ 0 ∧ session.slot.runId = run ∧ session.slot.lifecycle ≠ .noScenario ∧
      ∃ worker, session.worker? run = some worker ∧
        (session.slot.lifecycle = .stepping ↔ worker.outstanding = 1) ∧
        (session.slot.lifecycle = .loadedIdle ↔
          worker.isServing = true ∧ worker.outstanding = 0)

theorem Agrees.settled (agrees : session.Agrees broken) : session.Settled broken := by
  constructor
  · intro empty
    exact ((agrees_iff_of_eq_none empty).mp agrees).imp_left (congrArg Slot.lifecycle)
  · intro run present
    obtain ⟨own, worker, found, fits⟩ := (agrees_iff_of_eq_some present).mp agrees
    exact ⟨pos_of_worker? found, own, fits.ne_noScenario, worker, found, fits.stepping_iff,
      fits.loadedIdle_iff⟩

theorem Coherent.settled (coherent : session.Coherent broken)
    (whole : session.isHalfDone = false) : session.Settled broken := by
  unfold isHalfDone at whole
  unfold Coherent at coherent
  split at whole
  · next free =>
    rw [free] at coherent
    exact Agrees.settled coherent
  · next entered =>
    rw [entered] at coherent
    exact Agrees.settled coherent
  · next checking =>
    rw [checking] at coherent
    exact Agrees.settled coherent.1
  · next asleep =>
    rw [asleep] at coherent
    exact Agrees.settled coherent.1
  · next handling =>
    rw [handling] at coherent
    exact Agrees.settled (Rests.agrees coherent)
  · next leaving =>
    rw [leaving] at coherent
    exact Agrees.settled coherent.1
  · cases whole

/-- What a caller that sleeps can count on: it waits for one step of the present run, whose end has
not been reported. The worker can go on unless the movement waits for a signal, and if the movement
never does, the worker wakes the caller as soon as the step is over. -/
structure Attended (movement : Movement μ) (session : SharedSession μ) (run : Nat)
    (change : World → World) (worker : Worker μ) : Prop where
  present : session.current = some run
  stepping : session.slot = ⟨run, .stepping⟩
  found : session.worker? run = some worker
  owed : worker.outstanding = 1
  goesOn : worker.next? movement = none → movement.ready worker.course.memory = false
  woken : (∀ memory, movement.ready memory = true) →
    (∃ steps after, run? movement (List.replicate steps (.work run)) session = some (after, []) ∧
        after.holder = some (.checking run change) ∧ after.slot.lifecycle ≠ .stepping) ∨
      ∀ steps, ∃ after, run? movement (List.replicate steps (.work run)) session =
          some (after, []) ∧ after.holder = some (.asleep run change)

theorem Coherent.attended (coherent : session.Coherent broken) {run : Nat}
    {change : World → World} (asleep : session.holder = some (.asleep run change)) :
    ∃ worker, session.Attended movement run change worker := by
  have woken (ready : ∀ memory, movement.ready memory = true) :=
    woken_or_endless ready coherent asleep
  simp only [Coherent, asleep] at coherent
  obtain ⟨agrees, present, stepping⟩ := coherent
  obtain ⟨own, worker, found, fits⟩ := (agrees_iff_of_eq_some present).mp agrees
  refine ⟨worker, present, ?_, found, fits.stepping_iff.mp stepping, ?_, woken⟩
  · rw [← own, ← stepping]
  · rw [stepping] at fits
    exact ready_eq_false_of_next?_eq_none fits

private def exampleScenario : Scenario := { name := "a", stepLength := .ofNat 1 }

/-- A load that breaks off, and another one. -/
private def exampleLoads : List Action :=
  [.enter (.load exampleScenario), .proceed, .proceed, .breakOff, .proceed,
    .enter (.load exampleScenario), .proceed, .proceed, .proceed, .proceed]

private def exampleActions : List Action :=
  exampleLoads ++
    [.enter (.step none), .proceed, .proceed, .work 2, .proceed, .enter (.access id), .proceed,
      .proceed]

private def exampleSession : SharedSession Unit where
  slot := ⟨2, .stepping⟩
  current := some 2
  workers :=
    [none, some { Worker.start .constantVelocity exampleScenario with
      phase := .stepping none, waiting := false }]
  holder := some (.asleep 2 id)

/-- Behind a load that has broken off the slot speaks of a run, and there is none. -/
example : (run? .constantVelocity (exampleLoads.take 5) {}).map
    (fun ended => (ended.1.slot, ended.1.current)) = some (⟨1, .loadedIdle⟩, none) := by
  rfl

end SharedSession

end RemoteCrowd
