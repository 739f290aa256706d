import RemoteCrowd.Session.Ledger

/-!
A run between its holder and its listener. The holder asks the worker of the run for steps, and in
the end tells it to stop. The listener hears what the worker reports. Here each request is settled
before the next one: the worker has come to rest, or has exited.
-/

namespace RemoteCrowd

/-- Why a run that has ended refuses a request. -/
def RunOutcome.refusal : RunOutcome → Error
  | failed reason => .simulationFailed reason
  | _ => .access .threadExited

/-- Why a run failed that has ended so. -/
def RunOutcome.reason? : RunOutcome → Option String
  | failed reason => some reason
  | _ => none

/-- The end of the run that an event tells of. -/
def RunEvent.outcome? : RunEvent → Option RunOutcome
  | .stepFinished .. => none
  | .runFinished _ outcome => some outcome

/-- The event that tells the end of a step: how the run has ended with it, or else the time. -/
def RunEvent.ofStep (run : Nat) (time : Double) : Option RunOutcome → RunEvent
  | none => .stepFinished run time
  | some outcome => .runFinished run outcome

namespace Worker

variable {μ : Type}

/-- Ask the worker for steps, unless it takes no more requests. If its thread turns out to be gone,
the worker is marked as one that waits. -/
def ask (target : Option Double) (worker : Worker μ) : Except Error Unit × Worker μ :=
  match worker.failure? with
  | some reason => (.error (.simulationFailed reason), worker)
  | none =>
    if worker.phase = .exited then
      (.error (.access .threadExited), { worker with waiting := true })
    else (.ok (), { worker.send (.step target) with waiting := false })

/-- What the listener hears when the worker reports. -/
def event (run : Nat) (worker : Worker μ) : Report → RunEvent
  | .stepFinished => .stepFinished run worker.course.world.time
  | .runFinished outcome => .runFinished run outcome

/-- Nothing is under way: the worker waits for a request, or has exited. -/
def IsSettled (worker : Worker μ) : Prop :=
  worker.phase = .idle ∧ worker.queue = [] ∨ worker.phase = .exited

/-- The worker of a run goes on for a while, its movement may get signals meanwhile, and the
listener hears these events. -/
inductive Tells (movement : Movement μ) (run : Nat) :
    Worker μ → List RunEvent → Worker μ → Prop where
  | rests (worker : Worker μ) : Tells movement run worker [] worker
  | goesOn {worker between after : Worker μ} {report? : Option Report} {heard : List RunEvent}
    (next : worker.next? movement = some (between, report?))
    (tells : Tells movement run between heard after) :
    Tells movement run worker ((report?.map (worker.event run)).toList ++ heard) after
  | signalled {worker after : Worker μ} {heard : List RunEvent} (isOpen : Bool)
    (tells : Tells movement run (worker.signal movement isOpen) heard after) :
    Tells movement run worker heard after

end Worker

/-- A request to a run, its answer, and what the listener heard before the next request. -/
structure Errand where
  target : Option Double
  answer : Except Error Unit
  heard : List RunEvent

def Errand.isRefused (errand : Errand) : Bool := errand.answer.toOption.isNone

/-- All that the listener heard. -/
def heardIn (errands : List Errand) : List RunEvent := errands.flatMap Errand.heard

/-- How the run has ended, if the listener has heard of it. -/
def endIn? (errands : List Errand) : Option RunOutcome :=
  (heardIn errands).findSome? RunEvent.outcome?

/-- The worker of a new run has met with these requests, each of them settled before the next. -/
inductive Worker.Serves {μ : Type} (movement : Movement μ) (run : Nat) (scenario : Scenario) :
    List Errand → Worker μ → Prop where
  | starts : Serves movement run scenario [] (.start movement scenario)
  | asked {errands : List Errand} {worker after : Worker μ} {heard : List RunEvent}
    (target : Option Double) (serves : Serves movement run scenario errands worker)
    (tells : (worker.ask target).2.Tells movement run heard after) (settled : after.IsSettled) :
    Serves movement run scenario (errands ++ [⟨target, (worker.ask target).1, heard⟩]) after

/-- A request that was met at once. -/
def Errand.atOnce (target : Option Double) (answer : Except Error RunEvent) : Errand :=
  ⟨target, answer.map fun _ => (), answer.toOption.toList⟩

/-- The requests to a run that meets each of them at once, and the run behind them, if they all
come to an end. -/
def Run.errands {μ : Type} (movement : Movement μ) (run : Run μ) :
    List (Option Double) → Option (List Errand × Run μ)
  | [] => some ([], run)
  | target :: rest => do
    let (answer, after) ← run.request movement target
    let (later, last) ← errands movement after rest
    return (.atOnce target answer :: later, last)

/-- What the holder of a run has in hand. -/
structure Holding (μ : Type) where
  worker : Worker μ
  /-- Whether the thread of the worker is still attached. -/
  attached : Bool := true

/-- How the holder of a run parts from it. -/
inductive Parting where
  | stop
  | drop
deriving DecidableEq, Inhabited

namespace Holding

variable {μ : Type}

/-- Let go of a run. Only a worker whose thread is still attached is told to stop. -/
def drop (holding : Holding μ) : Holding μ :=
  if holding.attached then { holding with worker := holding.worker.send .stop } else holding

/-- Tell the worker to stop, detach its thread, and let go of what is left. -/
def stop (holding : Holding μ) : Holding μ :=
  drop { worker := holding.worker.send .stop, attached := false }

def part : Parting → Holding μ → Holding μ
  | .stop => stop
  | .drop => drop

/-- In either way the worker is told once. -/
@[simp] theorem worker_part (parting : Parting) (worker : Worker μ) :
    (part parting { worker }).worker = worker.send .stop := by
  cases parting <;> rfl

end Holding

end RemoteCrowd
