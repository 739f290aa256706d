import RemoteCrowd.Simulation.Movement

/-!
Runs of a scenario. A run waits for requests. Each request makes one step, or as many as it
takes to reach a target time, and causes one event; so does the end of the run. A run that
is over takes no more requests. Nothing bounds the number of steps of a request, so it need not
come to an end.
-/

namespace RemoteCrowd

/-- How a run ended. -/
inductive RunOutcome where
  /-- The finish time was reached. -/
  | completed
  | stopped
  | failed (reason : String)
deriving DecidableEq, Inhabited

/-- How a request ended: the run waits for the next one, or is over. -/
inductive StepEnd where
  | paused (time : Double)
  | completed
  | failed (reason : String)
deriving DecidableEq, Inhabited

/-- What a run reports to whoever listens. -/
inductive RunEvent where
  | stepFinished (run : Nat) (time : Double)
  | runFinished (run : Nat) (outcome : RunOutcome)
deriving DecidableEq, Inhabited

/-- What changes in the course of a run. -/
structure Course (μ : Type) where
  memory : μ
  world : World
deriving DecidableEq

namespace Course

variable {μ : Type}

/-- The course of a run that has not made a step yet. -/
def start (movement : Movement μ) (scenario : Scenario) : Course μ :=
  ⟨movement.start scenario, .ofScenario scenario⟩

/-- By how much two times may differ and still be the same: a billionth of a second. -/
def tolerance : Double := ⟨0x3e112e0be826d695⟩

/-- Make one step. It is counted, and the clock goes on, only if the movement succeeds. -/
def update (movement : Movement μ) (stepLength : Double) (course : Course μ) :
    Course μ × Option String :=
  let moved := movement.update course.memory course.world stepLength
  match moved.fault with
  | some fault => (⟨moved.memory, moved.world⟩, some fault.reason)
  | none => (⟨moved.memory, moved.world.tick stepLength⟩, none)

/-- Pass a signal on to the movement. -/
def signal (movement : Movement μ) (isOpen : Bool) (course : Course μ) : Course μ :=
  { course with memory := movement.signal isOpen course.memory }

/-- Change the state of the simulation. -/
def change (change : World → World) (course : Course μ) : Course μ :=
  { course with world := change course.world }

/-- Whether the finish time is reached. -/
def isComplete (finishTime : Double) (world : World) : Bool :=
  (finishTime - tolerance).le world.time

/-- Whether a target time is still ahead. One that is no number, or none at all, is not. -/
def isAhead (target : Option Double) (world : World) : Bool :=
  match target with
  | some time => world.time.lt (time - tolerance)
  | none => false

/-- Step until the target is reached, or once without a target. A request whose target is never
reached, and that nothing else puts an end to, has no result. -/
def advance (movement : Movement μ) (scenario : Scenario) (target : Option Double)
    (course : Course μ) : Option (Course μ × StepEnd) :=
  match course.update movement scenario.stepLength with
  | (after, some reason) => some (after, .failed reason)
  | (after, none) =>
    if isComplete scenario.finishTime after.world then some (after, .completed)
    else if isAhead target after.world then after |>.advance movement scenario target
    else some (after, .paused after.world.time)
partial_fixpoint

end Course

/-- A run between two requests. -/
structure Run (μ : Type) where
  id : Nat
  scenario : Scenario
  course : Course μ
  /-- How the run ended, if it did. -/
  outcome : Option RunOutcome := none
  /-- Whether the run says of itself that it waits for a request. -/
  waiting : Bool := true
deriving DecidableEq

namespace Run

variable {μ : Type}

/-- A run that waits for its first request. -/
def start (movement : Movement μ) (id : Nat) (scenario : Scenario) : Run μ :=
  { id, scenario, course := .start movement scenario }

/-- Why the run failed, if it did. -/
def failure? (run : Run μ) : Option String :=
  match run.outcome with
  | some (.failed reason) => some reason
  | _ => none

/-- End the run. -/
def finish (run : Run μ) (outcome : RunOutcome) : Run μ × RunEvent :=
  ({ run with outcome := some outcome, waiting := false }, .runFinished run.id outcome)

/-- The run behind the steps of a request, by how they ended, and the event that tells it. -/
def conclude (run : Run μ) (course : Course μ) : StepEnd → Run μ × RunEvent
  | .paused time => ({ run with course, waiting := true }, .stepFinished run.id time)
  | .completed => finish { run with course } .completed
  | .failed reason => finish { run with course } (.failed reason)

/-- Make the steps of a request, if they come to an end. -/
def perform (movement : Movement μ) (target : Option Double) (run : Run μ) :
    Option (Run μ × RunEvent) := do
  let (course, stepEnd) ← run.course.advance movement run.scenario target
  return run.conclude course stepEnd

/-- Ask the run to go to a target, or to make one step. A run that is over refuses. -/
def request (movement : Movement μ) (target : Option Double) (run : Run μ) :
    Option (Except Error RunEvent × Run μ) :=
  match run.outcome with
  | some (.failed reason) => some (.error (.simulationFailed reason), run)
  | some _ => some (.error (.access .threadExited), { run with waiting := true })
  | none => do
    let (after, event) ← run.perform movement target
    return (.ok event, after)

/-- End the run. Only a run that is not over yet reports it. -/
def stop (run : Run μ) : Option RunEvent :=
  match run.outcome with
  | some _ => none
  | none => some (.runFinished run.id .stopped)

end Run

end RemoteCrowd
