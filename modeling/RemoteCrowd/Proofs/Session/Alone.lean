import RemoteCrowd.Proofs.Session.Playing
import RemoteCrowd.Proofs.Session.Serial

/-!
A session whose operations are over at once tells what the shared session tells a patient caller.
Such a caller looks only while a step is in progress, and makes its other calls between the steps.
-/

namespace RemoteCrowd

variable {μ : Type}

namespace Session

/-- A call to a session whose operations are over at once, its answer, and the session behind it. -/
inductive Tells (movement : Movement μ) (session : Session μ) : Call × Answer → Session μ → Prop where
  | loads (scenario : Scenario) :
    Tells movement session (.load scenario, .done) (session.load movement scenario)
  | loses (scenario : Scenario) (reason : String) :
    Tells movement session (.load scenario, .refused (threadError reason)) session.withoutRun
  | steps {target : Option Double} {after : Session μ}
    (stepped : session.step movement target = .ok after) :
    Tells movement session (.step target, .done) after
  | refusesStep {target : Option Double} {cause : Error}
    (refused : session.step movement target = .error (.error cause)) :
    Tells movement session (.step target, .refused cause) session
  | shows (change : World → World) {run : Run μ} (usable : session.usable = .ok run) :
    Tells movement session (.access change, .seen run.course.world)
      (session.setWorld (change run.course.world))
  | refusesAccess (change : World → World) {cause : Error}
    (unusable : session.usable = .error cause) :
    Tells movement session (.access change, .refused cause) session
  | closes : Tells movement session (.close, .done) session.close

/-- Calls that are made one after another, with their answers. -/
inductive TellsAll (movement : Movement μ) (first : Session μ) :
    List (Call × Answer) → Session μ → Prop where
  | none : TellsAll movement first [] first
  | next {earlier : List (Call × Answer)} {last : Call × Answer} {between after : Session μ}
    (turns : TellsAll movement first earlier between) (turn : Tells movement between last after) :
    TellsAll movement first (earlier ++ [last]) after

variable {movement : Movement μ} {session : Session μ} {cause : Error}

theorem usable_of_checkUsable (refuses : session.lifecycle.checkUsable = .error cause) :
    session.usable = .error cause := by
  rw [usable, refuses]
  rfl

theorem checkUsable_of_none (gone : session.run? = none) :
    session.lifecycle.checkUsable = .error (.access .noScenario) := by
  rw [lifecycle, gone]
  rfl

theorem Tells.refusesStep_of_checkUsable (refuses : session.lifecycle.checkUsable = .error cause)
    (target : Option Double) : session.Tells movement (.step target, .refused cause) session :=
  .refusesStep (step_of_unusable (usable_of_checkUsable refuses))

end Session

namespace Slot

variable {slot : Slot} {run : Nat} {cause : Error}

theorem checkUsable_of_beginStep (own : slot.runId = run) (rests : slot.lifecycle ≠ .stepping)
    (refused : slot.beginStep run = .error cause) : slot.lifecycle.checkUsable = .error cause := by
  rw [beginStep, checkUsable_own own, if_neg rests] at refused
  cases usable : slot.lifecycle.checkUsable with
  | error cause' =>
    rw [usable] at refused
    exact congrArg Except.error (Except.error.inj refused)
  | ok _ =>
    rw [usable] at refused
    cases refused

theorem checkUsable_of_stepEnd? (own : slot.runId = run)
    (ended : slot.stepEnd? run = some (.error cause)) :
    slot.lifecycle ≠ .stepping ∧ slot.lifecycle.checkUsable = .error cause := by
  rw [stepEnd?, if_pos own] at ended
  split at ended
  · cases ended
  · next rests => exact ⟨rests, Option.some.inj ended⟩

/-- No report is about the beginning of a step. -/
theorem lifecycle_heard_ne_stepping (rests : slot.lifecycle ≠ .stepping) (run : Nat)
    (report? : Option Report) : (slot.heard run report?).lifecycle ≠ .stepping := by
  cases report? with
  | none => exact rests
  | some report => exact lifecycle_note_ne_stepping (fun same => absurd same rests) report

end Slot

/-- The stage of a caller that looks, or is done. -/
def Stage.Looks : Stage → Prop
  | .entered (.access _) | .checking .. | .asleep .. | .leaving _ => True
  | _ => False

namespace SharedSession

variable {movement : Movement μ} {shared after : SharedSession μ} {session : Session μ}
  {lifecycle : Lifecycle} {run : Nat} {worker worker' : Worker μ} {report? : Option Report}
  {broken : Prop}

/-- Both sessions have the same run, and the worker of the shared one plays it in a lifecycle. -/
def Mirrors (movement : Movement μ) (shared : SharedSession μ) (session : Session μ)
    (lifecycle : Lifecycle) : Prop :=
  session.nextId = shared.nextId ∧
    match shared.current with
    | none => session.run? = none
    | some own => ∃ run worker, session.run? = some run ∧ run.id = own ∧
        shared.worker? own = some worker ∧ worker.scenario = run.scenario ∧
        worker.Plays movement run lifecycle

theorem mirrors_iff_of_eq_none (empty : shared.current = none) :
    shared.Mirrors movement session lifecycle ↔
      session.nextId = shared.nextId ∧ session.run? = none := by
  rw [Mirrors, empty]

theorem mirrors_iff_of_eq_some {own : Nat} (present : shared.current = some own) :
    shared.Mirrors movement session lifecycle ↔
      session.nextId = shared.nextId ∧ ∃ run worker, session.run? = some run ∧ run.id = own ∧
        shared.worker? own = some worker ∧ worker.scenario = run.scenario ∧
        worker.Plays movement run lifecycle := by
  rw [Mirrors, present]

/-- How a session with operations that are over at once stands to the stage of the holder of the
lock. Its turn comes with the answer. Amid a load or a close the old run is gone already. -/
def MirrorsAt (movement : Movement μ) (shared : SharedSession μ) (session : Session μ) :
    Stage → Prop
  | .entered (.access _) | .checking .. | .asleep .. | .handling .. | .leaving _ =>
    shared.Mirrors movement session shared.slot.lifecycle
  | .entered _ =>
    shared.Mirrors movement session shared.slot.lifecycle ∧ shared.slot.lifecycle ≠ .stepping
  | .requesting .. => shared.Mirrors movement session .loadedIdle
  | .stopping .. | .parting .. | .joining .. | .announcing _ | .starting .. =>
    session.nextId = shared.nextId
  | .aborting .. => False

/-- How a session with operations that are over at once stands to the shared one. -/
def MirrorsNow (movement : Movement μ) (shared : SharedSession μ) (session : Session μ) : Prop :=
  match shared.holder with
  | none => shared.Mirrors movement session shared.slot.lifecycle
  | some stage => shared.MirrorsAt movement session stage

/-- Whoever finds no run, or a run that is not amid a step, finds the other session in the same
lifecycle. -/
theorem Mirrors.lifecycle_eq (mirrors : shared.Mirrors movement session shared.slot.lifecycle)
    (agrees : shared.Agrees False) (rests : shared.slot.lifecycle ≠ .stepping) :
    session.lifecycle = shared.slot.lifecycle := by
  obtain empty | ⟨own, present⟩ := Option.eq_none_or_eq_some shared.current
  · obtain ⟨-, gone⟩ := (mirrors_iff_of_eq_none empty).mp mirrors
    obtain nothing | ⟨broke, -⟩ := (agrees_iff_of_eq_none empty).mp agrees
    · rw [Session.lifecycle, gone, nothing]
    · exact broke.elim
  · obtain ⟨-, run, worker, loaded, -, -, -, plays⟩ := (mirrors_iff_of_eq_some present).mp mirrors
    exact plays.lifecycle_eq rests loaded

/-- Another worker than that of the present run is no matter. -/
theorem Mirrors.works_other (mirrors : shared.Mirrors movement session lifecycle)
    (found : shared.worker? run = some worker) (other : shared.current ≠ some run)
    (worker' : Worker μ) (report? : Option Report) :
    (shared.worked run worker' report?).Mirrors movement session lifecycle := by
  obtain empty | ⟨own, present⟩ := Option.eq_none_or_eq_some shared.current
  · rw [mirrors_iff_of_eq_none empty] at mirrors
    rw [mirrors_iff_of_eq_none ((current_worked ..).trans empty), nextId_worked]
    exact mirrors
  · rw [mirrors_iff_of_eq_some present] at mirrors
    rw [mirrors_iff_of_eq_some ((current_worked ..).trans present), nextId_worked, worker?_worked,
      worker?_setWorker_of_ne (pos_of_worker? found) (fun same => other (same ▸ present))]
    exact mirrors

theorem Mirrors.works (mirrors : shared.Mirrors movement session shared.slot.lifecycle)
    (agrees : shared.Agrees broken) (found : shared.worker? run = some worker)
    (goes : worker.Goes movement worker' report?) :
    (shared.worked run worker' report?).Mirrors movement session
      (shared.worked run worker' report?).slot.lifecycle := by
  by_cases own : shared.current = some run
  · obtain ⟨speaks, -⟩ := (agrees_iff_of_eq_some own).mp agrees
    obtain ⟨next, run', known, loaded, named, found', same, plays⟩ :=
      (mirrors_iff_of_eq_some own).mp mirrors
    obtain rfl := Option.some.inj (found.symm.trans found')
    rw [mirrors_iff_of_eq_some ((current_worked ..).trans own), nextId_worked, worker?_worked,
      worker?_setWorker_self found, slot_worked]
    have plays' := plays.goes goes run
    have slot : Slot.mk run shared.slot.lifecycle = shared.slot := by rw [← speaks]
    rw [slot] at plays'
    exact ⟨next, run', worker', loaded, named, rfl, goes.scenario_eq.trans same, plays'⟩
  · have mirrors' := mirrors.works_other found own worker' report?
    rw [slot_worked]
    obtain empty | ⟨present', present⟩ := Option.eq_none_or_eq_some shared.current
    · rw [mirrors_iff_of_eq_none ((current_worked ..).trans empty)] at mirrors' ⊢
      exact mirrors'
    · obtain ⟨speaks, -⟩ := (agrees_iff_of_eq_some present).mp agrees
      have apart : shared.slot.runId ≠ run := fun same => own (same ▸ speaks ▸ present)
      rw [Slot.heard_of_ne apart]
      exact mirrors'

/-- A step of the present run never ends, and whoever looks waits for its end. -/
def Stuck (movement : Movement μ) (shared : SharedSession μ) : Prop :=
  ∃ own worker, shared.current = some own ∧ shared.slot = ⟨own, .stepping⟩ ∧
    shared.worker? own = some worker ∧ worker.Stalls movement ∧
    ∀ stage, shared.holder = some stage → stage.Looks

/-- What becomes of a session whose operations are over at once when the shared one has settled an
answer. A step that never ends has an answer, but there is no session behind it. -/
inductive Settles (movement : Movement μ) (session : Session μ) (call : Call) (answer : Answer)
    (after : SharedSession μ) : Prop where
  | turn {session' : Session μ} (turn : session.Tells movement (call, answer) session')
    (mirrors : after.Mirrors movement session' after.slot.lifecycle)
  | stalls {target : Option Double} (asked : call = .step target) (done : answer = .done)
    (endless : session.step movement target = .error .endless) (stuck : after.Stuck movement)

/-- A worker that waits is asked for a step, which may end or not. -/
theorem Mirrors.requests {target : Option Double}
    (mirrors : shared.Mirrors movement session .loadedIdle) (rests : shared.Rests run .stepping)
    (found : shared.worker? run = some worker) :
    Settles movement session (.step target) .done
      ((shared.setWorker run { worker.send (.step target) with waiting := false }).goTo
        (.leaving .done)) := by
  obtain ⟨present, speaks, known, foundKnown, fits⟩ := rests
  obtain rfl := Option.some.inj (found.symm.trans foundKnown)
  obtain ⟨next, run', worker', loaded, named, found', same, plays⟩ :=
    (mirrors_iff_of_eq_some present).mp mirrors
  obtain rfl := Option.some.inj (found.symm.trans found')
  obtain ⟨idle, asked, -⟩ := fits.idle_of_loadedIdle
  obtain ⟨course, waits⟩ := plays.waits_of_loadedIdle
  let asked' : Worker μ := { worker.send (.step target) with waiting := false }
  have owes : asked'.Owes target := .inl ⟨idle, by
    show worker.queue ++ [.step target] = [.step target]
    rw [asked, List.nil_append]⟩
  have found' : (shared.setWorker run asked').worker? run = some asked' :=
    worker?_setWorker_self found asked'
  cases advanced : run'.course.advance movement run'.scenario target with
  | some last =>
    obtain ⟨last, ending⟩ := last
    have stepped := Session.step_eq_ok_iff.mpr ⟨run', last, ending, loaded, waits, advanced, rfl⟩
    refine .turn (.steps stepped) ?_
    rw [mirrors_iff_of_eq_some (by exact present)]
    refine ⟨next.trans (nextId_setWorker ..).symm, _, asked', rfl, Run.id_behind.trans named, found',
      same.trans Run.scenario_behind.symm, ?_⟩
    show asked'.Plays movement _ shared.slot.lifecycle
    rw [speaks]
    refine .owes owes ?_ (Run.outcome_behind waits last ending)
    rw [Run.course_behind]
    show worker.course.advance movement worker.scenario target = _
    rw [course, same]
    exact advanced
  | none =>
    have endless := Session.step_eq_endless_iff.mpr ⟨run', loaded, waits, advanced⟩
    refine .stalls rfl rfl endless ⟨run, asked', present, speaks, found', ⟨target, owes, ?_⟩, ?_⟩
    · show worker.course.advance movement worker.scenario target = _
      rw [course, same]
      exact advanced
    · intro stage leaving
      obtain rfl := Option.some.inj leaving
      trivial

/-- Whoever sees the state sees the state of the other session. -/
theorem Mirrors.handles (mirrors : shared.Mirrors movement session shared.slot.lifecycle)
    (rests : shared.Rests run .loadedIdle) (found : shared.worker? run = some worker)
    (change : World → World) :
    Settles movement session (.access change) (.seen worker.course.world)
      ((shared.setWorker run { worker with course := worker.course.change change }).goTo
        (.leaving (.seen worker.course.world))) := by
  obtain ⟨present, speaks, known, foundKnown, fits⟩ := rests
  obtain rfl := Option.some.inj (found.symm.trans foundKnown)
  obtain ⟨next, run', worker', loaded, named, found', same, plays⟩ :=
    (mirrors_iff_of_eq_some present).mp mirrors
  obtain rfl := Option.some.inj (found.symm.trans found')
  rw [speaks] at plays
  obtain ⟨course, waits⟩ := plays.waits_of_loadedIdle
  have usable := Session.usable_eq_ok loaded waits
  rw [course]
  refine .turn (.shows change usable) ?_
  rw [mirrors_iff_of_eq_some (by exact present)]
  let changed : Run μ := { run' with course := run'.course.change change }
  have changed' : (session.setWorld (change run'.course.world)).run? = some changed := by
    rw [Session.setWorld, loaded]
    rfl
  refine ⟨next.trans (nextId_setWorker ..).symm, changed, _, changed', named,
    worker?_setWorker_self found _, same, ?_⟩
  show Worker.Plays movement _ changed shared.slot.lifecycle
  rw [speaks]
  obtain ⟨idle, asked, -⟩ := fits.idle_of_loadedIdle
  exact .waits idle asked rfl waits

/-- Once the old run is gone, the load goes on, or the session is closed. -/
theorem parted {scenario? : Option Scenario} (next : session.nextId = shared.nextId)
    (empty : shared.current = none) :
    (∃ stage, (shared.goTo (afterParting scenario?)).holder = some stage ∧
        (shared.goTo (afterParting scenario?)).MirrorsAt movement session stage ∧
        ∀ call, call = partingCall scenario? → stage.Serves call) ∨
      ∃ call answer, (shared.goTo (afterParting scenario?)).holder = some (.leaving answer) ∧
        (∀ call', call' = partingCall scenario? → call' = call) ∧
        Settles movement session call answer (shared.goTo (afterParting scenario?)) := by
  cases scenario? with
  | some scenario => exact .inl ⟨_, rfl, next, fun _ same => same⟩
  | none =>
    have gone : shared.Mirrors movement session.close shared.slot.lifecycle :=
      (mirrors_iff_of_eq_none empty).mpr ⟨next, rfl⟩
    exact .inr ⟨_, _, rfl, fun _ same => same, .turn .closes gone⟩

/-- How far the holder of the lock gets with one action: it goes on with its call, or settles the
answer. -/
theorem MirrorsAt.proceeds {stage : Stage} (mirrors : shared.MirrorsAt movement session stage)
    (agrees : shared.AgreesAt False stage) (proceeds : Proceeds movement shared stage after none) :
    (∃ stage', after.holder = some stage' ∧ after.MirrorsAt movement session stage' ∧
        ∀ call, stage.Serves call → stage'.Serves call) ∨
      ∃ call answer, after.holder = some (.leaving answer) ∧
        (∀ call', stage.Serves call' → call' = call) ∧
        Settles movement session call answer after := by
  cases proceeds with
  | loadsFirst empty | loadsNext present | closes present =>
    exact .inl ⟨_, rfl, mirrors.1.1, fun _ same => same⟩
  | announces => exact .inl ⟨_, rfl, mirrors, fun _ same => same⟩
  | tells found =>
    exact .inl ⟨_, rfl, mirrors.trans (nextId_setWorker ..).symm, fun _ same => same⟩
  | awaits found idle => exact .inl ⟨_, rfl, mirrors, fun _ same => same⟩
  | looks present | fallsAsleep busy | lookBegins ended =>
    exact .inl ⟨_, rfl, mirrors, fun _ same => same⟩
  | stepsNowhere empty =>
    obtain ⟨-, gone⟩ := (mirrors_iff_of_eq_none empty).mp mirrors.1
    have refuses := Session.checkUsable_of_none gone
    exact .inr ⟨_, _, rfl, fun _ same => same,
      .turn (.refusesStep_of_checkUsable refuses _) mirrors.1⟩
  | stepRefused present refused =>
    obtain ⟨mirrors, rests⟩ := mirrors
    obtain ⟨own, -⟩ := (agrees_iff_of_eq_some present).mp agrees
    have refuses := Slot.checkUsable_of_beginStep own rests refused
    rw [← mirrors.lifecycle_eq agrees rests] at refuses
    exact .inr ⟨_, _, rfl, fun _ same => same,
      .turn (.refusesStep_of_checkUsable refuses _) mirrors⟩
  | stepBegins present begun =>
    obtain ⟨own, -⟩ := (agrees_iff_of_eq_some present).mp agrees
    obtain ⟨idle, -⟩ := Slot.beginStep_eq_ok own begun
    obtain ⟨mirrors, -⟩ := mirrors
    rw [idle] at mirrors
    exact .inl ⟨_, rfl, mirrors, fun _ same => same⟩
  | looksNowhere empty =>
    obtain ⟨-, gone⟩ := (mirrors_iff_of_eq_none empty).mp mirrors
    have unusable := Session.usable_of_checkUsable (Session.checkUsable_of_none gone)
    exact .inr ⟨_, _, rfl, fun _ same => same, .turn (.refusesAccess _ unusable) mirrors⟩
  | lookRefused ended =>
    obtain ⟨agrees, present⟩ := agrees
    obtain ⟨own, -⟩ := (agrees_iff_of_eq_some present).mp agrees
    obtain ⟨rests, refuses⟩ := Slot.checkUsable_of_stepEnd? own ended
    rw [← Mirrors.lifecycle_eq mirrors agrees rests] at refuses
    have unusable := Session.usable_of_checkUsable refuses
    exact .inr ⟨_, _, rfl, fun _ same => same, .turn (.refusesAccess _ unusable) mirrors⟩
  | closesNothing empty =>
    obtain ⟨⟨next, -⟩, -⟩ := mirrors
    have gone : shared.Mirrors movement session.close shared.slot.lifecycle :=
      (mirrors_iff_of_eq_none empty).mpr ⟨next, rfl⟩
    exact .inr ⟨_, _, rfl, fun _ same => same, .turn .closes gone⟩
  | @detaches run scenario? worker found busy =>
    exact parted mirrors agrees.1
  | @joins run scenario? worker found exited =>
    exact parted mirrors agrees.1
  | @starts run scenario =>
    obtain ⟨-, rfl, announced⟩ := agrees
    refine .inr ⟨_, _, rfl, fun _ same => same, .turn (.loads scenario) ?_⟩
    rw [mirrors_iff_of_eq_some (by exact rfl)]
    refine ⟨?_, _, _, rfl, mirrors, worker?_addWorker_self shared _, rfl, ?_⟩
    · exact (congrArg Nat.succ mirrors).trans (nextId_addWorker ..).symm
    · show Worker.Plays _ _ _ shared.slot.lifecycle
      rw [announced]
      exact .waits rfl rfl rfl rfl
  | requests found =>
    obtain ⟨-, -, known, foundKnown, fits⟩ := id agrees
    obtain rfl := Option.some.inj (found.symm.trans foundKnown)
    rw [requestStep_eq fits]
    exact .inr ⟨_, _, rfl, fun _ same => same, Mirrors.requests mirrors agrees found⟩
  | aborts => exact mirrors.elim
  | handles found =>
    exact .inr ⟨_, _, rfl, fun _ same => same, Mirrors.handles mirrors agrees found _⟩

/-- A report of some worker wakes whoever looks, and is no matter to the others. -/
theorem MirrorsAt.works {stage : Stage} (mirrors : shared.MirrorsAt movement session stage)
    (agrees : shared.AgreesAt False stage) (found : shared.worker? run = some worker)
    (goes : worker.Goes movement worker' report?) :
    (shared.worked run worker' report?).MirrorsAt movement session
      (shared.wokenBy run report? stage) := by
  obtain same | ⟨own, change, rfl, -, -, wakes⟩ := shared.wokenBy_cases run report? stage
  · rw [same]
    cases stage with
    | entered call =>
      cases call with
      | access change => exact Mirrors.works mirrors agrees found goes
      | load scenario | step target | close =>
        obtain ⟨mirrors, rests⟩ := mirrors
        refine ⟨mirrors.works agrees found goes, ?_⟩
        rw [slot_worked]
        exact Slot.lifecycle_heard_ne_stepping rests run report?
    | checking own change | asleep own change | leaving answer =>
      exact Mirrors.works mirrors agrees.1 found goes
    | handling own change =>
      have agrees' : shared.Agrees False := Rests.agrees agrees
      exact Mirrors.works mirrors agrees' found goes
    | requesting own target =>
      obtain ⟨other, -⟩ := Rests.works agrees found goes
      obtain ⟨present, -⟩ := agrees
      have apart : shared.current ≠ some run := fun same =>
        other (Option.some.inj (present.symm.trans same))
      exact Mirrors.works_other mirrors found apart worker' report?
    | stopping | parting | joining | announcing | starting =>
      exact Eq.trans mirrors (nextId_worked ..).symm
    | aborting => exact mirrors.elim
  · rw [wakes]
    exact Mirrors.works mirrors agrees.1 found goes

theorem MirrorsNow.works (mirrors : shared.MirrorsNow movement session)
    (coherent : shared.Coherent False) (found : shared.worker? run = some worker)
    (goes : worker.Goes movement worker' report?) :
    (shared.worked run worker' report?).MirrorsNow movement session := by
  unfold MirrorsNow
  unfold MirrorsNow at mirrors
  unfold Coherent at coherent
  rw [holder_worked]
  cases holding : shared.holder with
  | none =>
    rw [holding] at mirrors coherent
    exact Mirrors.works mirrors coherent found goes
  | some stage =>
    rw [holding] at mirrors coherent
    exact MirrorsAt.works mirrors coherent found goes

/-- A step that never ends goes on without a report, and whoever looks goes on to sleep. -/
theorem Stuck.works (stuck : shared.Stuck movement) (found : shared.worker? run = some worker)
    (goes : worker.Goes movement worker' report?) :
    (shared.worked run worker' report?).Stuck movement := by
  obtain ⟨own, known, present, speaks, foundKnown, stalls, looks⟩ := stuck
  by_cases same : run = own
  · subst same
    obtain rfl := Option.some.inj (found.symm.trans foundKnown)
    obtain ⟨rfl, stalls'⟩ := stalls.goes goes
    exact ⟨run, worker', present, speaks, worker?_setWorker_self found _, stalls', looks⟩
  · have apart : shared.slot.runId ≠ run := fun equal => same (equal.symm.trans (by rw [speaks]))
    refine ⟨own, known, (current_worked ..).trans present, ?_, ?_, stalls, ?_⟩
    · rw [slot_worked, Slot.heard_of_ne apart]
      exact speaks
    · rw [worker?_worked, worker?_setWorker_of_ne (pos_of_worker? found) (Ne.symm same)]
      exact foundKnown
    · rw [holder_worked_of_apart fun _ _ _ => apart]
      exact looks

/-- Nobody who looks while a step goes on for ever gets an answer. -/
theorem Stuck.proceeds {stage : Stage} (stuck : shared.Stuck movement)
    (holding : shared.holder = some stage) (agrees : shared.AgreesAt False stage)
    (proceeds : Proceeds movement shared stage after none) :
    ∃ stage', after.holder = some stage' ∧ after.Stuck movement ∧
      ∀ call, stage.Serves call → stage'.Serves call := by
  obtain ⟨own, worker, present, speaks, found, stalls, looks⟩ := stuck
  have looking := looks stage holding
  have busy (run : Nat) (same : shared.current = some run) : shared.slot.stepEnd? run = none := by
    obtain rfl := Option.some.inj (present.symm.trans same)
    rw [Slot.stepEnd?, speaks, if_pos rfl, if_pos rfl]
  have waits {stage' : Stage} (looks' : stage'.Looks) : (shared.goTo stage').Stuck movement := by
    refine ⟨own, worker, present, speaks, found, stalls, fun _ goes => ?_⟩
    obtain rfl := Option.some.inj goes
    exact looks'
  cases proceeds with
  | looks present' => exact ⟨_, rfl, waits trivial, fun _ same => same⟩
  | fallsAsleep busy => exact ⟨_, rfl, waits trivial, fun _ same => same⟩
  | looksNowhere empty => cases present.symm.trans empty
  | lookRefused ended => cases (busy _ agrees.2).symm.trans ended
  | lookBegins ended => cases (busy _ agrees.2).symm.trans ended
  | _ => exact looking.elim

/-- What a patient caller does, whatever the workers do meanwhile: it looks whenever it likes, and
makes its other calls while no step is in progress, as whoever looks behind each step. No signal
comes from elsewhere, and the movement of every run can be made. -/
def Admits (shared : SharedSession μ) : Action → Prop
  | .enter (.access _) | .proceed | .fail _ | .work _ => True
  | .enter _ => shared.slot.lifecycle ≠ .stepping
  | .breakOff | .signal .. => False

/-- Each of the actions is one of a patient caller where it comes. -/
def Patiently (movement : Movement μ) : List Action → SharedSession μ → Prop
  | [], _ => True
  | action :: rest, shared => shared.Admits action ∧
      ∀ after answer?, shared.act? movement action = some (after, answer?) →
        Patiently movement rest after

/-- The turns of the shared session are those of a session whose operations are over at once, unless
the last one is a step that never ends. -/
inductive Retold (movement : Movement μ) (turns : List (Call × Answer)) (shared : SharedSession μ) :
    Prop where
  | told {session : Session μ} (told : Session.TellsAll movement {} turns session)
    (mirrors : shared.MirrorsNow movement session)
  | stuck {earlier : List (Call × Answer)} {target : Option Double} {session : Session μ}
    (told : Session.TellsAll movement {} earlier session)
    (last : turns = earlier ++ [(.step target, .done)])
    (endless : session.step movement target = .error .endless) (stuck : shared.Stuck movement)

theorem Retold.settles {turns : List (Call × Answer)} {call : Call} {answer : Answer}
    (told : Session.TellsAll movement {} turns session)
    (settles : Settles movement session call answer after)
    (leaving : after.holder = some (.leaving answer)) :
    Retold movement (turns ++ [(call, answer)]) after := by
  cases settles with
  | turn turn mirrors =>
    refine .told (told.next turn) ?_
    rw [MirrorsNow, leaving]
    exact mirrors
  | stalls asked done endless stuck =>
    subst asked done
    exact .stuck told rfl endless stuck

variable {actions : List Action} {answers : List Answer} {turns : List (Call × Answer)}

theorem Retold.enters {call : Call} (retold : Retold movement turns shared)
    (free : shared.holder = none) (admits : shared.Admits (.enter call)) :
    Retold movement turns (shared.goTo (.entered call)) := by
  cases retold with
  | told told mirrors =>
    rw [MirrorsNow, free] at mirrors
    refine .told told ?_
    cases call with
    | access change => exact mirrors
    | load scenario | step target | close => exact ⟨mirrors, admits⟩
  | stuck told last endless stuck =>
    obtain ⟨own, worker, present, speaks, found, stalls, -⟩ := stuck
    cases call with
    | access change =>
      refine .stuck told last endless ⟨own, worker, present, speaks, found, stalls, ?_⟩
      intro stage entered
      obtain rfl := Option.some.inj entered
      trivial
    | load scenario | step target | close => exact absurd (by rw [speaks]) admits

theorem Retold.leaves {answer : Answer} (retold : Retold movement turns shared)
    (leaving : shared.holder = some (.leaving answer)) :
    Retold movement turns { shared with holder := none } := by
  cases retold with
  | told told mirrors =>
    rw [MirrorsNow, leaving] at mirrors
    exact .told told mirrors
  | stuck told last endless stuck =>
    obtain ⟨own, worker, present, speaks, found, stalls, -⟩ := stuck
    refine .stuck told last endless ⟨own, worker, present, speaks, found, stalls, ?_⟩
    exact fun _ held => by cases held

/-- The holder of the lock goes on, and there is one turn more where it settles its answer. -/
theorem Retold.goesOn {calls : List Call} {stage : Stage} (retold : Retold movement turns shared)
    (holding : shared.holder = some stage) (agrees : shared.AgreesAt False stage)
    (stands : Stands calls answers turns (some stage))
    (proceeds : Proceeds movement shared stage after none) :
    ∃ turns', Stands calls answers turns' after.holder ∧ Retold movement turns' after := by
  have unsettled (answer : Answer) : stage ≠ .leaving answer := by
    rintro rfl
    cases proceeds
  cases retold with
  | told told mirrors =>
    rw [MirrorsNow, holding] at mirrors
    obtain ⟨stage', holding', mirrors', serves⟩ | ⟨call, answer, leaving, serves, settles⟩ :=
      mirrors.proceeds agrees proceeds
    · refine ⟨turns, ?_, .told told ?_⟩
      · rw [holding']
        exact stands.goesOn unsettled serves
      · rw [MirrorsNow, holding']
        exact mirrors'
    · refine ⟨_, ?_, .settles told settles leaving⟩
      rw [leaving]
      exact stands.settle unsettled serves answer
  | stuck told last endless stuck =>
    obtain ⟨stage', holding', stuck', serves⟩ := stuck.proceeds holding agrees proceeds
    refine ⟨turns, ?_, .stuck told last endless stuck'⟩
    rw [holding']
    exact stands.goesOn unsettled serves

theorem Retold.loses {scenario : Scenario} (retold : Retold movement turns shared)
    (starting : shared.holder = some (.starting run scenario)) (empty : shared.current = none)
    (reason : String) :
    Retold movement (turns ++ [(.load scenario, .refused (threadError reason))])
      (({ shared.addWorker none with slot := {} }).goTo
        (.leaving (.refused (threadError reason)))) := by
  cases retold with
  | told told mirrors =>
    rw [MirrorsNow, starting] at mirrors
    refine .settles told (.turn (.loses scenario reason) ?_) rfl
    rw [mirrors_iff_of_eq_none (by exact empty)]
    exact ⟨(congrArg Nat.succ mirrors).trans (nextId_addWorker ..).symm, rfl⟩
  | stuck told last endless stuck =>
    obtain ⟨own, worker, present, -⟩ := stuck
    cases present.symm.trans empty

theorem Retold.works (retold : Retold movement turns shared) (coherent : shared.Coherent False)
    (found : shared.worker? run = some worker) (goes : worker.Goes movement worker' report?) :
    Retold movement turns (shared.worked run worker' report?) := by
  cases retold with
  | told told mirrors => exact .told told (mirrors.works coherent found goes)
  | stuck told last endless stuck => exact .stuck told last endless (stuck.works found goes)

/-- One action of a patient caller, or of a worker. -/
theorem Retold.acts {action : Action} {answer? : Option Answer}
    (retold : Retold movement turns shared) (coherent : shared.Coherent False)
    (stands : Stands (callsOf actions) answers turns shared.holder) (admits : shared.Admits action)
    (acts : Acts movement shared action after answer?) :
    ∃ turns', Stands (callsOf (actions ++ [action])) (answers ++ answer?.toList) turns'
        after.holder ∧ Retold movement turns' after := by
  cases acts with
  | @enters call free =>
    rw [free] at stands
    refine ⟨turns, ?_, retold.enters free admits⟩
    simpa [Action.call?] using stands.enters call
  | @proceeds stage after answer? holding proceeds =>
    unfold Coherent at coherent
    rw [holding] at coherent stands
    cases answer? with
    | some answer =>
      cases proceeds with
      | leaves =>
        refine ⟨turns, ?_, retold.leaves holding⟩
        simpa [Action.call?] using stands.leaves
    | none =>
      obtain ⟨turns', stands', retold'⟩ := retold.goesOn holding coherent stands proceeds
      refine ⟨turns', ?_, retold'⟩
      simpa [Action.call?] using stands'
  | @fails run scenario reason starting =>
    unfold Coherent at coherent
    rw [starting] at coherent stands
    refine ⟨_, ?_, retold.loses starting coherent.1 reason⟩
    have settled := stands.settle (fun _ same => by cases same) (fun _ same => same)
      (.refused (threadError reason))
    simpa [Action.call?] using settled
  | breaksOff starting => exact admits.elim
  | @works run worker worker' report? found goes =>
    refine ⟨turns, ?_, retold.works coherent found goes⟩
    simpa [Action.call?] using stands.worked run worker' report?
  | signals found => exact admits.elim

theorem Retold.runs {rest : List Action} {later : List Answer} {last : SharedSession μ}
    (retold : Retold movement turns shared) (coherent : shared.Coherent False)
    (stands : Stands (callsOf actions) answers turns shared.holder)
    (patient : Patiently movement rest shared)
    (ran : run? movement rest shared = some (last, later)) :
    ∃ turns', Stands (callsOf (actions ++ rest)) (answers ++ later) turns' last.holder ∧
      last.Coherent False ∧ Retold movement turns' last := by
  induction rest generalizing shared actions answers turns later with
  | nil =>
    obtain ⟨rfl, rfl⟩ := Prod.mk.inj (Option.some.inj ran)
    rw [List.append_nil, List.append_nil]
    exact ⟨turns, stands, coherent, retold⟩
  | cons action rest ih =>
    obtain ⟨after, answer?, latest, acted, ranRest, rfl⟩ := run?_cons_eq_some_iff.mp ran
    obtain ⟨admits, patientLater⟩ := patient
    have acts := acts_of_act? acted
    obtain ⟨turns', stands', retold'⟩ := retold.acts coherent stands admits acts
    have coherent' := (coherent.acts acts fun breaks => by
      subst breaks
      exact admits.elim).1
    have patient' := patientLater after answer? acted
    have ends := ih retold' coherent' stands' patient' ranRest
    rwa [List.append_assoc, List.singleton_append, List.append_assoc] at ends

/-- Whatever the workers do meanwhile, a patient caller of the shared session is told what it would
be told by a session whose operations are over at once, and whenever no call is under way and no
step in progress, the lifecycle is the same. Only a step that never ends tells them apart: the one
session has nothing behind it, and in the other one it stays in progress. -/
theorem retold_of_run? (ran : run? movement actions {} = some (shared, answers))
    (patient : Patiently movement actions {}) :
    (∃ session : Session μ, Session.TellsAll movement {} (shared.turns actions answers) session ∧
      (shared.holder = none → shared.slot.lifecycle ≠ .stepping →
        session.lifecycle = shared.slot.lifecycle)) ∨
    ∃ earlier target, ∃ session : Session μ,
      shared.turns actions answers = earlier ++ [(.step target, .done)] ∧
      Session.TellsAll movement {} earlier session ∧ session.step movement target = .error .endless ∧
      shared.slot.lifecycle = .stepping := by
  have mirrors : ({} : SharedSession μ).MirrorsNow movement ({} : Session μ) := ⟨rfl, rfl⟩
  have start : Retold movement [] ({} : SharedSession μ) := .told .none mirrors
  have stands : Stands (callsOf []) [] [] ({} : SharedSession μ).holder := .free rfl rfl
  obtain ⟨turns, stands', coherent, retold⟩ := start.runs coherent_start stands patient ran
  rw [List.nil_append, List.nil_append] at stands'
  rw [turns_eq_of_stands stands']
  cases retold with
  | @told session told mirrors =>
    refine .inl ⟨session, told, fun free rests => ?_⟩
    rw [MirrorsNow, free] at mirrors
    rw [Coherent, free] at coherent
    exact mirrors.lifecycle_eq coherent rests
  | @stuck earlier target session told last endless stuck =>
    obtain ⟨own, worker, present, speaks, -⟩ := stuck
    exact .inr ⟨earlier, target, session, last, told, endless, by rw [speaks]⟩

end SharedSession

end RemoteCrowd
