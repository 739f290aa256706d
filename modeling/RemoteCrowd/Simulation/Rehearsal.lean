import RemoteCrowd.Simulation.Movement

/-!
Movements for rehearsing what can go wrong in a run. By the name of the scenario, a run
keeps constant velocities, or breaks off at a chosen update, or waits at a gate in front of
every update.
-/

namespace RemoteCrowd

/-- How a run is to go. -/
inductive Rehearsal where
  | steady
  /-- The update with this number, counted from one, fails. -/
  | failing (number : Nat) (fault : MovementFault)
  /-- Every update waits for a signal: an open gate lets it through, a closed one fails
  it. -/
  | gated
deriving DecidableEq, Inhabited

/-- How a run is to go, and how far it has come. -/
structure Rehearsal.Memory where
  plan : Rehearsal
  /-- Number of updates so far. -/
  updates : Nat := 0
  /-- Signals that no update has used yet, oldest first. -/
  signals : List Bool := []
deriving DecidableEq, Inhabited

namespace Rehearsal

/-- The fault of an update in front of a closed gate. -/
def gateClosed : MovementFault := .error (.simulationFailed "gate closed")

/-- Make the next update as planned. -/
def rehearse (memory : Memory) (world : World) (seconds : Double) : Moved Memory :=
  match memory.plan with
  | .steady => Movement.walkCrowd memory world seconds
  | .failing number fault =>
    let counted := { memory with updates := memory.updates + 1 }
    if counted.updates = number then ⟨counted, world, some fault⟩
    else Movement.walkCrowd counted world seconds
  | .gated =>
    match memory.signals with
    | true :: rest => Movement.walkCrowd { memory with signals := rest } world seconds
    | false :: rest => ⟨{ memory with signals := rest }, world, some gateClosed⟩
    | [] => ⟨memory, world, some gateClosed⟩

/-- The movement under which every run goes by its plan. -/
def movement (plan : String → Rehearsal) : Movement Memory where
  start scenario := { plan := plan scenario.name }
  update := rehearse
  ready memory := memory.plan != .gated || !memory.signals.isEmpty
  signal isOpen memory :=
    if memory.plan = .gated then { memory with signals := memory.signals ++ [isOpen] }
    else memory

end Rehearsal

end RemoteCrowd
