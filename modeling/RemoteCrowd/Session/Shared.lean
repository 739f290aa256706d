import RemoteCrowd.Session.Worker

/-!
The session as its callers and workers share it, one atomic action at a time. One caller at
a time holds the lock of the session; callers in front of it have done nothing yet. Callers
and workers meet at the slot, which says of which run it speaks and in which lifecycle that
run is. A caller that finds a step in progress falls asleep at the slot, and nothing but a report
wakes it. Every interleaving of their actions is a list of `Action`s.
-/

namespace RemoteCrowd

/-- What callers and workers tell each other. -/
structure Slot where
  /-- The run that the slot speaks of, or zero. -/
  runId : Nat := 0
  lifecycle : Lifecycle := .noScenario
deriving DecidableEq, Inhabited

namespace Slot

/-- Take note of a report. Reports of other runs than the slot's are ignored. -/
def note (slot : Slot) (run : Nat) (report : Report) : Slot :=
  if slot.runId = run then
    match report with
    | .stepFinished =>
      if slot.lifecycle = .stepping then { slot with lifecycle := .loadedIdle } else slot
    | .runFinished outcome => { slot with lifecycle := outcome.lifecycle }
  else slot

/-- Refuse unless the slot speaks of the given run and the run is not over. -/
def checkUsable (slot : Slot) (run : Nat) : Except Error Unit :=
  if slot.runId = run then slot.lifecycle.checkUsable else .error (.access .replaced)

/-- Mark the beginning of a step. -/
def beginStep (slot : Slot) (run : Nat) : Except Error Slot := do
  slot.checkUsable run
  if slot.lifecycle = .stepping then throw (.access .stepInProgress)
  else return { slot with lifecycle := .stepping }

/-- Take back the beginning of a step that was never requested. -/
def abortStep (slot : Slot) (run : Nat) : Slot :=
  if slot.runId = run ∧ slot.lifecycle = .stepping then { slot with lifecycle := .loadedIdle }
  else slot

/-- Whether a step of the given run has ended, and if so whether the run can be used. -/
def stepEnd? (slot : Slot) (run : Nat) : Option (Except Error Unit) :=
  if slot.runId = run then
    if slot.lifecycle = .stepping then none else some slot.lifecycle.checkUsable
  else some (.error (.access .interrupted))

end Slot

/-- What a caller asks of the session. -/
inductive Call where
  /-- Start a run of a scenario. -/
  | load (scenario : Scenario)
  /-- Begin a step of the run. -/
  | step (target : Option Double)
  /-- See the state between two steps, and change it. -/
  | access (change : World → World)
  /-- End the run. -/
  | close

/-- What a caller gets. -/
inductive Answer where
  | done
  /-- The state that was seen, before the change. -/
  | seen (world : World)
  | refused (cause : Error)
  /-- No answer at all: the caller breaks off with the movement that it was to make. -/
  | brokenOff
deriving DecidableEq, Inhabited

/-- How far the holder of the lock has come. -/
inductive Stage where
  /-- It has the lock and has done nothing else. -/
  | entered (call : Call)
  /-- It has taken the run away and will tell its worker to stop. Then it loads a scenario,
  or is done. -/
  | stopping (run : Nat) (scenario? : Option Scenario)
  /-- It has told the worker, and will see whether to wait for its exit. -/
  | parting (run : Nat) (scenario? : Option Scenario)
  /-- It waits for the exit of the worker. -/
  | joining (run : Nat) (scenario? : Option Scenario)
  /-- It will announce a new run. -/
  | announcing (scenario : Scenario)
  /-- It will make the movement of the new run and start the worker. -/
  | starting (run : Nat) (scenario : Scenario)
  /-- It has marked the beginning of a step and will request it. -/
  | requesting (run : Nat) (target : Option Double)
  /-- Its request was not accepted, and it will take the mark back. -/
  | aborting (run : Nat) (cause : Error)
  /-- It will look at the slot for the end of a step. -/
  | checking (run : Nat) (change : World → World)
  /-- It sleeps until it is woken, and will look again. -/
  | asleep (run : Nat) (change : World → World)
  /-- No step is in progress, and it will see the state. -/
  | handling (run : Nat) (change : World → World)
  /-- It will give the lock back. -/
  | leaving (answer : Answer)

/-- The stage behind a report of some run. The slot wakes whoever sleeps if it speaks of this
run, for whatever the report may be. -/
def Stage.wokenBy (run : Nat) (slot : Slot) : Stage → Stage
  | .asleep own change => if slot.runId = run then .checking own change else .asleep own change
  | stage => stage

/-- A session with the workers of all its runs, of which the first has id one. A run whose worker
could not be started has none. -/
structure SharedSession (μ : Type) where
  slot : Slot := {}
  /-- The present run. Only the holder of the lock looks at it. -/
  current : Option Nat := none
  workers : List (Option (Worker μ)) := []
  /-- The holder of the lock. -/
  holder : Option Stage := none

/-- One atomic action. Who acts is left open; what they do is not. -/
inductive Action where
  /-- A caller takes the lock. -/
  | enter (call : Call)
  /-- The holder of the lock goes on. -/
  | proceed
  /-- The machine cannot start the thread of the new worker, for some reason. -/
  | fail (reason : String)
  /-- The movement of the new run cannot be made, and the holder of the lock breaks off. -/
  | breakOff
  /-- The worker of a run goes on. -/
  | work (run : Nat)
  /-- The movement of a run gets a signal. -/
  | signal (run : Nat) (isOpen : Bool)

namespace SharedSession

variable {μ : Type}

instance : Inhabited (SharedSession μ) := ⟨{}⟩

/-- The worker of a run. -/
def worker? (session : SharedSession μ) (run : Nat) : Option (Worker μ) :=
  if run = 0 then none else session.workers[run - 1]?.join

def setWorker (session : SharedSession μ) (run : Nat) (worker : Worker μ) : SharedSession μ :=
  { session with workers := session.workers.set (run - 1) (some worker) }

/-- The session behind the announcement of the next run, with its worker if it has one. -/
def addWorker (session : SharedSession μ) (worker? : Option (Worker μ)) : SharedSession μ :=
  { session with workers := session.workers ++ [worker?] }

/-- The id that the next run gets. -/
def nextId (session : SharedSession μ) : Nat := session.workers.length + 1

/-- The session in which the holder of the lock has come to a stage. -/
def goTo (session : SharedSession μ) (stage : Stage) : SharedSession μ :=
  { session with holder := some stage }

@[simp] theorem holder_goTo (session : SharedSession μ) (stage : Stage) :
    (session.goTo stage).holder = some stage := rfl

/-- What follows once an old run is gone. -/
def afterParting : Option Scenario → Stage
  | some scenario => .announcing scenario
  | none => .leaving .done

/-- The first action of a caller that has the lock. -/
def enterCall (session : SharedSession μ) : Call → SharedSession μ
  | .load scenario =>
    match session.current with
    | none => session.goTo (.announcing scenario)
    | some run => ({ session with current := none }).goTo (.stopping run (some scenario))
  | .step target =>
    match session.current with
    | none => session.goTo (.leaving (.refused (.access .noScenario)))
    | some run =>
      match session.slot.beginStep run with
      | .error cause => session.goTo (.leaving (.refused cause))
      | .ok slot => ({ session with slot }).goTo (.requesting run target)
  | .access change =>
    match session.current with
    | none => session.goTo (.leaving (.refused (.access .noScenario)))
    | some run => session.goTo (.checking run change)
  | .close =>
    match session.current with
    | none => session.goTo (.leaving .done)
    | some run => ({ session with current := none, slot := {} }).goTo (.stopping run none)

/-- Look for the end of a step, and fall asleep if there is none yet. -/
def checkStep (session : SharedSession μ) (run : Nat) (change : World → World) :
    SharedSession μ :=
  match session.slot.stepEnd? run with
  | none => session.goTo (.asleep run change)
  | some (.error cause) => session.goTo (.leaving (.refused cause))
  | some (.ok ()) => session.goTo (.handling run change)

/-- Hand a step over to the worker of a run, unless it takes no more requests. -/
def requestStep (session : SharedSession μ) (run : Nat) (target : Option Double)
    (worker : Worker μ) : SharedSession μ :=
  match worker.failure? with
  | some reason => session.goTo (.aborting run (.simulationFailed reason))
  | none =>
    if worker.phase = .exited then
      (session.setWorker run { worker with waiting := true }).goTo
        (.aborting run (.access .threadExited))
    else
      (session.setWorker run { worker.send (.step target) with waiting := false }).goTo
        (.leaving .done)

/-- The next action of the holder of the lock, and its answer if that was the last one.
There is none while it has to wait. -/
def proceed? (movement : Movement μ) (session : SharedSession μ) :
    Option (SharedSession μ × Option Answer) :=
  match session.holder with
  | none => none
  | some (.entered call) => some (session.enterCall call, none)
  | some (.stopping run scenario?) => do
    let worker ← session.worker? run
    return ((session.setWorker run (worker.send .stop)).goTo (.parting run scenario?), none)
  | some (.parting run scenario?) => do
    let worker ← session.worker? run
    if worker.waiting || worker.phase = .exited then
      return (session.goTo (.joining run scenario?), none)
    else return (session.goTo (afterParting scenario?), none)
  | some (.joining run scenario?) => do
    let worker ← session.worker? run
    if worker.phase = .exited then return (session.goTo (afterParting scenario?), none)
    else none
  | some (.announcing scenario) =>
    let slot : Slot := ⟨session.nextId, .loadedIdle⟩
    some (({ session with slot }).goTo (.starting session.nextId scenario), none)
  | some (.starting run scenario) =>
    let started := session.addWorker (some (.start movement scenario))
    some (({ started with current := some run }).goTo (.leaving .done), none)
  | some (.requesting run target) => do
    return (session.requestStep run target (← session.worker? run), none)
  | some (.aborting run cause) =>
    let slot := session.slot.abortStep run
    some (({ session with slot }).goTo (.leaving (.refused cause)), none)
  | some (.checking run change) => some (session.checkStep run change, none)
  | some (.asleep ..) => none
  | some (.handling run change) => do
    let worker ← session.worker? run
    let world := worker.course.world
    let changed := { worker with course := worker.course.change change }
    return ((session.setWorker run changed).goTo (.leaving (.seen world)), none)
  | some (.leaving answer) => some ({ session with holder := none }, some answer)

/-- What the holder of the lock does if the thread of a new worker cannot be started. The slot
takes back what it has announced. -/
def fail? (reason : String) (session : SharedSession μ) : Option (SharedSession μ) :=
  match session.holder with
  | some (.starting ..) =>
    some (({ session.addWorker none with slot := {} }).goTo
      (.leaving (.refused (threadError reason))))
  | _ => none

/-- What becomes of the session if the movement of a new run cannot be made. The slot goes on to
speak of a run that there is not. -/
def breakOff? (session : SharedSession μ) : Option (SharedSession μ) :=
  match session.holder with
  | some (.starting ..) => some ((session.addWorker none).goTo (.leaving .brokenOff))
  | _ => none

/-- The session in which the slot has taken note of a report, and has woken whoever sleeps. -/
def hear (session : SharedSession μ) (run : Nat) : Option Report → SharedSession μ
  | some report =>
    { session with
      slot := session.slot.note run report
      holder := session.holder.map (Stage.wokenBy run session.slot) }
  | none => session

/-- The next action of the worker of a run. A report reaches the slot at once. -/
def work? (movement : Movement μ) (run : Nat) (session : SharedSession μ) :
    Option (SharedSession μ) := do
  let worker ← session.worker? run
  let (after, report?) ← worker.next? movement
  return (session.setWorker run after).hear run report?

/-- Pass a signal on to the movement of a run. -/
def signal? (movement : Movement μ) (run : Nat) (isOpen : Bool)
    (session : SharedSession μ) : Option (SharedSession μ) := do
  let worker ← session.worker? run
  return session.setWorker run (worker.signal movement isOpen)

/-- The effect of an action, where it is possible, and the answer of a call that ends with
it. -/
def act? (movement : Movement μ) (session : SharedSession μ) :
    Action → Option (SharedSession μ × Option Answer)
  | .enter call =>
    match session.holder with
    | none => some (session.goTo (.entered call), none)
    | some _ => none
  | .proceed => session.proceed? movement
  | .fail reason => do return (← session.fail? reason, none)
  | .breakOff => do return (← session.breakOff?, none)
  | .work run => do return (← session.work? movement run, none)
  | .signal run isOpen => do return (← session.signal? movement run isOpen, none)

/-- The effect of actions one after another, and the answers of the calls that end, in
their order. -/
def run? (movement : Movement μ) :
    List Action → SharedSession μ → Option (SharedSession μ × List Answer)
  | [], session => some (session, [])
  | action :: rest, session => do
    let (after, answer?) ← session.act? movement action
    let (last, answers) ← run? movement rest after
    return (last, answer?.toList ++ answers)

end SharedSession

end RemoteCrowd
