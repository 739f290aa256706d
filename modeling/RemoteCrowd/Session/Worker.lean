import RemoteCrowd.Session.Basic

/-!
Workers: the thread that makes the steps of one run. Callers leave requests in its queue
and do not wait. The worker takes them up one after another, makes one update at a time,
and reports how each request ended. After the end of the run it reports no more.
-/

namespace RemoteCrowd

/-- What a worker is asked to do. -/
inductive Request where
  | step (target : Option Double)
  | stop
deriving DecidableEq, Inhabited

/-- What a worker reports about its run. -/
inductive Report where
  | stepFinished
  | runFinished (outcome : RunOutcome)
deriving DecidableEq, Inhabited

/-- What a worker is doing. -/
inductive Phase where
  /-- It waits for a request. -/
  | idle
  /-- It makes the updates of a step. -/
  | stepping (target : Option Double)
  /-- It is about to report. -/
  | reporting (report : Report)
  /-- It has made its last report. -/
  | leaving
  | exited
deriving DecidableEq, Inhabited

/-- Whether the report tells the end of a step. A run that is stopped ends between steps. -/
def Report.endsStep : Report → Bool
  | .runFinished .stopped => false
  | _ => true

/-- Whether a request has been taken up and its end has not been reported. -/
def Phase.isInStep : Phase → Bool
  | .stepping _ => true
  | .reporting report => report.endsStep
  | _ => false

/-- Whether the last step has ended and another can follow. -/
def Phase.isCalm : Phase → Bool
  | .idle | .reporting .stepFinished => true
  | _ => false

/-- Whether the run has ended. -/
def Phase.isOver : Phase → Bool
  | .reporting (.runFinished _) | .leaving | .exited => true
  | _ => false

/-- The thread of one run. -/
structure Worker (μ : Type) where
  scenario : Scenario
  course : Course μ
  /-- Requests not taken up yet, oldest first. -/
  queue : List Request := []
  phase : Phase := .idle
  /-- Whether the worker says of itself that it waits for a request. -/
  waiting : Bool := true
  /-- Why the run failed, if it did. -/
  failure? : Option String := none
deriving DecidableEq

namespace Worker

variable {μ : Type}

/-- The worker of a new run. -/
def start (movement : Movement μ) (scenario : Scenario) : Worker μ :=
  { scenario, course := .start movement scenario }

/-- Leave a request in the queue. -/
def send (request : Request) (worker : Worker μ) : Worker μ :=
  { worker with queue := worker.queue ++ [request] }

/-- Make one update of a step, and see whether the step is over. If another can follow, the
worker says that it waits before it reports. -/
def update (movement : Movement μ) (target : Option Double) (worker : Worker μ) :
    Worker μ :=
  match worker.course.update movement worker.scenario.stepLength with
  | (course, some reason) =>
    { worker with
      course, failure? := some reason, phase := .reporting (.runFinished (.failed reason)) }
  | (course, none) =>
    if Course.isComplete worker.scenario.finishTime course.world then
      { worker with course, phase := .reporting (.runFinished .completed) }
    else if Course.isAhead target course.world then { worker with course }
    else { worker with course, phase := .reporting .stepFinished, waiting := true }

/-- The worker behind a report. -/
def reported (worker : Worker μ) : Report → Worker μ
  | .stepFinished => { worker with phase := .idle }
  | .runFinished _ => { worker with phase := .leaving }

/-- The next thing that the worker does, and what it reports by it. There is none while
it waits for a request or for a signal, nor after its exit. -/
def next? (movement : Movement μ) (worker : Worker μ) : Option (Worker μ × Option Report) :=
  match worker.phase with
  | .idle =>
    match worker.queue with
    | [] => none
    | .step target :: rest =>
      some ({ worker with queue := rest, phase := .stepping target }, none)
    | .stop :: rest =>
      some ({ worker with queue := rest, phase := .reporting (.runFinished .stopped) }, none)
  | .stepping target =>
    if movement.ready worker.course.memory then some (worker.update movement target, none)
    else none
  | .reporting report => some (worker.reported report, some report)
  | .leaving => some ({ worker with phase := .exited }, none)
  | .exited => none

/-- Pass a signal on to the movement. -/
def signal (movement : Movement μ) (isOpen : Bool) (worker : Worker μ) : Worker μ :=
  { worker with course := worker.course.signal movement isOpen }

end Worker

end RemoteCrowd
