import RemoteCrowd.Simulation.Run

/-!
The session: at most one run, and its lifecycle. Here every operation is over before the
next one begins, so no step is ever in progress between two operations. An operation that is
never over has nothing behind it.
-/

namespace RemoteCrowd

/-- Why an action gives no value. -/
inductive Lapse where
  | error (cause : Error)
  /-- It goes on for ever. -/
  | endless
deriving DecidableEq, Inhabited

/-- A result that is there at once, be it a value or an error. -/
def atOnce {α : Type} : Except Error α → Except Lapse α
  | .ok value => .ok value
  | .error cause => .error (.error cause)

/-- What a session can be asked to do next. -/
inductive Lifecycle where
  | noScenario
  | loadedIdle
  /-- A step is in progress. -/
  | stepping
  /-- The run reached its finish time. -/
  | finished
  /-- The run failed, and stays so until another scenario is loaded. -/
  | failed (reason : String)
deriving DecidableEq, Inhabited

/-- Refuse unless there is a run that is not over. -/
def Lifecycle.checkUsable : Lifecycle → Except Error Unit
  | noScenario => .error (.access .noScenario)
  | loadedIdle | stepping => .ok ()
  | finished => .error (.access .finished)
  | failed reason => .error (.simulationFailed reason)

/-- How the end of a run shows. -/
def RunOutcome.lifecycle : RunOutcome → Lifecycle
  | completed => .finished
  | stopped => .noScenario
  | failed reason => .failed reason

/-- The error of a run whose thread cannot be started. -/
def threadError (reason : String) : Error :=
  .simulationFailed ("cannot start simulation thread: " ++ reason)

/-- A session between two operations. -/
structure Session (μ : Type) where
  run? : Option (Run μ) := none
  /-- The id of the next run. -/
  nextId : Nat := 1
deriving DecidableEq

namespace Session

variable {μ : Type}

instance : Inhabited (Session μ) := ⟨{}⟩

def lifecycle (session : Session μ) : Lifecycle :=
  match session.run? with
  | none => .noScenario
  | some run =>
    match run.outcome with
    | none => .loadedIdle
    | some outcome => outcome.lifecycle

/-- Start a run of a scenario in place of the present run. -/
def load (movement : Movement μ) (scenario : Scenario) (session : Session μ) : Session μ :=
  ⟨some (.start movement session.nextId scenario), session.nextId + 1⟩

/-- The session in which a run could not be started. The present run had to go for it. -/
def withoutRun (session : Session μ) : Session μ := ⟨none, session.nextId + 1⟩

/-- End the present run. -/
def close (session : Session μ) : Session μ := { session with run? := none }

/-- The run, if it can be used. -/
def usable (session : Session μ) : Except Error (Run μ) := do
  session.lifecycle.checkUsable
  match session.run? with
  | some run => return run
  | none => throw (.access .noScenario)

/-- Let the run step to a target, or once without one. The step is over afterwards, and
may have ended the run. -/
def step (movement : Movement μ) (target : Option Double) (session : Session μ) :
    Except Lapse (Session μ) := do
  let run ← atOnce session.usable
  match run.perform movement target with
  | some (after, _) => return { session with run? := some after }
  | none => throw .endless

/-- The state of the simulation. -/
def world (session : Session μ) : Except Error World := do
  return (← session.usable).course.world

/-- Put another state in place of the present one. -/
def setWorld (world : World) (session : Session μ) : Session μ :=
  { session with
    run? := session.run?.map fun run => { run with course := { run.course with world } } }

end Session

end RemoteCrowd
